import Mathlib.Data.List.Induction

namespace Roshambo

variable {ι σ ν : Type}

def lastWord? (said : ι → Option ν) (writes : List ι) : Option ν := writes.reverse.findSome? said

lemma lastWord?_concat (said : ι → Option ν) (writes : List ι) (write : ι) :
    lastWord? said (writes ++ [write]) = (said write).or (lastWord? said writes) := by
  rw [lastWord?, List.reverse_append, List.reverse_singleton, List.singleton_append, List.findSome?_cons]
  cases said write <;> rfl

lemma exists_of_lastWord? {said : ι → Option ν} {writes : List ι} {v : ν} (h : lastWord? said writes = some v) :
    ∃ write ∈ writes, said write = some v := by
  obtain ⟨write, hwrite, hsaid⟩ := List.exists_of_findSome?_eq_some h
  exact ⟨write, List.mem_reverse.mp hwrite, hsaid⟩

lemma foldl_eq_lastWord? {apply : σ → ι → σ} {part : σ → ν} {said : ι → Option ν}
    (step : ∀ state write, part (apply state write) = (said write).getD (part state)) (start : σ) (writes : List ι) :
    part (writes.foldl apply start) = (lastWord? said writes).getD (part start) := by
  induction writes using List.reverseRecOn with
  | nil => rfl
  | append_singleton writes write ih =>
    rw [List.foldl_append, List.foldl_cons, List.foldl_nil, step, lastWord?_concat, ih, Option.getD_or]

end Roshambo
