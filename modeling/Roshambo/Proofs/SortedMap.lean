import Mathlib.Data.List.Basic
import Roshambo.SortedMap

namespace Roshambo.SortedMap

variable {κ ν : Type} [Ord κ]

def filter (m : SortedMap κ ν) (p : κ → Bool) : SortedMap κ ν :=
  ⟨m.entries.filter fun e => p e.1, sorted_drop m.sorted⟩

lemma eq_of_entries {m n : SortedMap κ ν} (h : m.entries = n.entries) : m = n := by
  cases m
  cases n
  simpa using h

@[simp] lemma entries_filter (m : SortedMap κ ν) (p : κ → Bool) :
    (m.filter p).entries = m.entries.filter fun e => p e.1 := rfl

lemma filter_filter (m : SortedMap κ ν) (p q : κ → Bool) :
    (m.filter p).filter q = m.filter fun k => p k && q k := by
  apply eq_of_entries
  simp only [entries_filter, List.filter_filter, Bool.and_comm]

lemma filter_congr {m : SortedMap κ ν} {p q : κ → Bool} (h : ∀ e ∈ m.entries, p e.1 = q e.1) :
    m.filter p = m.filter q :=
  eq_of_entries (List.filter_congr h)

lemma filter_eq_self {m : SortedMap κ ν} {p : κ → Bool} (h : ∀ e ∈ m.entries, p e.1 = true) :
    m.filter p = m :=
  eq_of_entries (List.filter_eq_self.mpr h)

@[simp] lemma get?_empty (k : κ) : (∅ : SortedMap κ ν).get? k = none := rfl

variable [Std.LawfulEqOrd κ]

lemma ne_of_lt {a b : κ} (h : compare a b = .lt) : a ≠ b := by
  rintro rfl
  rw [Std.ReflOrd.compare_self] at h
  cases h

lemma lookup_eq_some_iff {k : κ} {v : ν} {entries : List (κ × ν)}
    (h : entries.Pairwise fun a b => compare a.1 b.1 = .lt) :
    lookup k entries = some v ↔ (k, v) ∈ entries := by
  induction entries with
  | nil => simp [lookup]
  | cons head rest ih =>
    obtain ⟨k', v'⟩ := head
    obtain ⟨hhead, hrest⟩ := List.pairwise_cons.mp h
    simp only [lookup, List.mem_cons, Prod.mk.injEq]
    split
    · rename_i hk
      obtain rfl := Std.LawfulEqOrd.eq_of_compare hk
      have hnot : (k, v) ∉ rest := fun hm => ne_of_lt (hhead _ hm) rfl
      simp [hnot, eq_comm]
    · rename_i hk
      have hne : k ≠ k' := fun he => hk (by rw [he, Std.ReflOrd.compare_self])
      simp [hne, ih hrest]

lemma get?_eq_some_iff {m : SortedMap κ ν} {k : κ} {v : ν} : m.get? k = some v ↔ (k, v) ∈ m.entries :=
  lookup_eq_some_iff m.sorted

lemma nodup_of_sorted {es : List (κ × ν)} (h : es.Pairwise fun a b => compare a.1 b.1 = .lt) : es.Nodup :=
  h.imp fun h he => ne_of_lt h (congrArg Prod.fst he)

lemma entries_nodup (m : SortedMap κ ν) : m.entries.Nodup := nodup_of_sorted m.sorted

lemma keys_nodup (m : SortedMap κ ν) : m.keys.Nodup :=
  List.pairwise_map.mpr (m.sorted.imp ne_of_lt)

lemma mem_keys {m : SortedMap κ ν} {k : κ} : k ∈ m.keys ↔ ∃ v, m.get? k = some v := by
  simp [keys, get?_eq_some_iff]

lemma mem_values {m : SortedMap κ ν} {v : ν} : v ∈ m.values ↔ ∃ k, m.get? k = some v := by
  simp [values, get?_eq_some_iff]

lemma get?_filter (m : SortedMap κ ν) (p : κ → Bool) (k : κ) :
    (m.filter p).get? k = if p k then m.get? k else none := by
  apply Option.ext
  intro v
  rw [get?_eq_some_iff, entries_filter, List.mem_filter, ← get?_eq_some_iff]
  split <;> simp_all

lemma erase_eq_filter [DecidableEq κ] (m : SortedMap κ ν) (k : κ) : m.erase k = m.filter (· ≠ k) := by
  apply eq_of_entries
  apply List.filter_congr
  intro e _
  rw [decide_eq_decide]
  exact not_congr (Std.LawfulEqOrd.compare_eq_iff_eq.trans eq_comm)

lemma get?_erase [DecidableEq κ] (m : SortedMap κ ν) (k k' : κ) :
    (m.erase k).get? k' = if k' = k then none else m.get? k' := by
  rw [erase_eq_filter, get?_filter]
  by_cases h : k' = k <;> simp [h]

variable [Std.TransOrd κ]

lemma eq_of_sorted {es fs : List (κ × ν)} (hes : es.Pairwise fun a b => compare a.1 b.1 = .lt)
    (hfs : fs.Pairwise fun a b => compare a.1 b.1 = .lt) (h : ∀ e, e ∈ es ↔ e ∈ fs) : es = fs := by
  refine List.Perm.eq_of_pairwise ?_ hes hfs ?_
  · intro a b _ _ hab hba
    rw [Std.OrientedCmp.gt_of_lt hab] at hba
    cases hba
  · exact (List.perm_ext_iff_of_nodup (nodup_of_sorted hes) (nodup_of_sorted hfs)).mpr h

lemma ext_get? {m n : SortedMap κ ν} (h : ∀ k, m.get? k = n.get? k) : m = n := by
  apply eq_of_entries
  refine eq_of_sorted m.sorted n.sorted ?_
  rintro ⟨k, v⟩
  rw [← get?_eq_some_iff, ← get?_eq_some_iff, h]

variable [DecidableEq κ]

lemma lookup_place {k k' : κ} {v : ν} (entries : List (κ × ν)) :
    lookup k' (place k v entries) = if k' = k then some v else lookup k' entries := by
  induction entries with
  | nil => simp [place, lookup]
  | cons head rest ih =>
    obtain ⟨k₀, v₀⟩ := head
    simp only [place]
    split
    · simp only [lookup, Std.LawfulEqOrd.compare_eq_iff_eq]
    · rename_i hk
      obtain rfl := Std.LawfulEqOrd.eq_of_compare hk
      simp only [lookup, Std.LawfulEqOrd.compare_eq_iff_eq]
      split <;> rfl
    · rename_i hk
      have hne : k₀ ≠ k := ne_of_lt (Std.OrientedCmp.lt_of_gt hk)
      simp only [lookup, Std.LawfulEqOrd.compare_eq_iff_eq, ih]
      by_cases h : k' = k₀
      · simp [h, hne]
      · simp [h]

lemma get?_insert (m : SortedMap κ ν) (k k' : κ) (v : ν) :
    (m.insert k v).get? k' = if k' = k then some v else m.get? k' :=
  lookup_place m.entries

lemma get?_foldl_insert {α : Type} {key : α → κ} {value : α → ν} {items : List α} (hd : (items.map key).Nodup)
    (m : SortedMap κ ν) (k : κ) (v : ν) :
    (items.foldl (fun m a => m.insert (key a) (value a)) m).get? k = some v ↔
      (∃ a ∈ items, key a = k ∧ value a = v) ∨ (k ∉ items.map key ∧ m.get? k = some v) := by
  induction items generalizing m with
  | nil => simp
  | cons a rest ih =>
    obtain ⟨hout, hd⟩ := List.nodup_cons.mp hd
    rw [List.foldl_cons, ih hd, get?_insert]
    by_cases hk : k = key a
    · subst hk
      have hne : ∀ b ∈ rest, key b ≠ key a := fun b hb he => hout (List.mem_map.mpr ⟨b, hb, he⟩)
      rw [if_pos rfl, List.exists_mem_cons_iff, Option.some_inj]
      constructor
      · rintro (⟨b, hb, he, -⟩ | ⟨-, hv⟩)
        · exact (hne b hb he).elim
        · exact Or.inl (Or.inl ⟨rfl, hv⟩)
      · rintro ((⟨-, hv⟩ | ⟨b, hb, he, -⟩) | ⟨hk, -⟩)
        · exact Or.inr ⟨hout, hv⟩
        · exact (hne b hb he).elim
        · exact (hk List.mem_cons_self).elim
    · simp [hk, Ne.symm hk]

lemma get?_update (m n : SortedMap κ ν) (k : κ) : (m.update n).get? k = (n.get? k).or (m.get? k) := by
  apply Option.ext
  intro v
  rw [update, get?_foldl_insert n.keys_nodup]
  constructor
  · rintro (⟨⟨k', v'⟩, he, rfl, rfl⟩ | ⟨hout, hv⟩)
    · rw [get?_eq_some_iff.mpr he, Option.some_or]
    · cases hn : n.get? k with
      | none => rw [Option.none_or, hv]
      | some v' => exact (hout (mem_keys.mpr ⟨v', hn⟩)).elim
  · intro h
    cases hn : n.get? k with
    | none =>
      rw [hn, Option.none_or] at h
      refine Or.inr ⟨fun hmem => ?_, h⟩
      obtain ⟨v', hv'⟩ := mem_keys.mp hmem
      rw [hn] at hv'
      cases hv'
    | some v' =>
      rw [hn, Option.some_or] at h
      exact Or.inl ⟨(k, v'), get?_eq_some_iff.mp hn, rfl, Option.some.inj h⟩

lemma update_insert (m n : SortedMap κ ν) (k : κ) (v : ν) : m.update (n.insert k v) = (m.update n).insert k v := by
  apply ext_get?
  intro k'
  simp only [get?_update, get?_insert]
  by_cases h : k' = k <;> simp [h]

lemma update_of_listed {m n : SortedMap κ ν} (listed : ∀ k, (m.get? k).isSome → (n.get? k).isSome) :
    m.update n = n := by
  apply ext_get?
  intro k
  rw [get?_update]
  cases hn : n.get? k with
  | some v => rfl
  | none =>
    have hm : m.get? k = none := by
      by_contra hsome
      have hlisted := listed k (Option.isSome_iff_ne_none.mpr hsome)
      rw [hn] at hlisted
      cases hlisted
    rw [hm, Option.or_none]

lemma ofList_entries (m : SortedMap κ ν) : ofList m.entries = m := by
  change update ∅ m = m
  apply ext_get?
  intro k
  rw [get?_update, get?_empty, Option.or_none]

lemma erase_of_get?_eq_none {m : SortedMap κ ν} {k : κ} (h : m.get? k = none) : m.erase k = m := by
  apply ext_get?
  intro k'
  rw [get?_erase]
  split
  · rename_i hk
    rw [hk, h]
  · rfl

lemma perm_insert (m : SortedMap κ ν) (k : κ) (v : ν) :
    (m.insert k v).entries.Perm ((k, v) :: (m.erase k).entries) := by
  have hnot : (k, v) ∉ (m.erase k).entries := by
    rw [← get?_eq_some_iff, get?_erase]
    simp
  refine (List.perm_ext_iff_of_nodup (entries_nodup _) ?_).mpr ?_
  · exact List.nodup_cons.mpr ⟨hnot, entries_nodup _⟩
  · rintro ⟨k', v'⟩
    rw [List.mem_cons, ← get?_eq_some_iff, ← get?_eq_some_iff, get?_insert, get?_erase]
    by_cases h : k' = k
    · simp [h, eq_comm]
    · simp [h]

lemma perm_insert_new {m : SortedMap κ ν} {k : κ} (v : ν) (h : m.get? k = none) :
    (m.insert k v).entries.Perm ((k, v) :: m.entries) := by
  simpa only [erase_of_get?_eq_none h] using m.perm_insert k v

lemma insert_of_get? {m : SortedMap κ ν} {k : κ} {v : ν} (h : m.get? k = some v) : m.insert k v = m := by
  apply ext_get?
  intro k'
  rw [get?_insert]
  split
  · rename_i hk
    rw [hk, h]
  · rfl

lemma insert_comm {m : SortedMap κ ν} {k k' : κ} (v v' : ν) (hne : k ≠ k') :
    (m.insert k v).insert k' v' = (m.insert k' v').insert k v := by
  apply ext_get?
  intro other
  simp only [get?_insert]
  by_cases hk : other = k
  · simp [hk, hne]
  · simp [hk]

lemma perm_erase {m : SortedMap κ ν} {k : κ} {v : ν} (h : m.get? k = some v) :
    m.entries.Perm ((k, v) :: (m.erase k).entries) := by
  simpa only [insert_of_get? h] using m.perm_insert k v

end Roshambo.SortedMap
