import Mathlib.Data.List.Infix
import Mathlib.Tactic.Common
import Roshambo.CommandLine.Files

namespace Roshambo.CommandLine

namespace Tree

variable {t : Tree} {path other : Path} {new found : Tree} {name : String}

@[simp] lemma find?_nil (t : Tree) : t.find? [] = some t := rfl

@[simp] lemma find?_cons (t : Tree) (name : String) (path : Path) :
    t.find? (name :: path) = (t.child? name).bind (find? · path) := rfl

lemma find?_append (t : Tree) (path other : Path) : t.find? (path ++ other) = (t.find? path).bind (find? · other) :=
  List.foldlM_append

lemma find?_of_not_folder (h : t.isFolder = false) (hother : other ≠ []) : t.find? other = none := by
  cases other with
  | nil => exact absurd rfl hother
  | cons name other =>
    cases t with
    | folder entries => cases h
    | text content => rfl
    | database tables => rfl

lemma lookup_replace_self (entries : List (String × Tree)) : (replace name new entries).lookup name = some new := by
  induction entries with
  | nil => simp [replace]
  | cons entry entries ih =>
    obtain ⟨first, child⟩ := entry
    by_cases h : first = name
    · simp [replace, h]
    · simpa [replace, h, List.lookup_cons, beq_false_of_ne (Ne.symm h)] using ih

lemma lookup_replace_of_ne {a : String} (h : a ≠ name) (entries : List (String × Tree)) :
    (replace name new entries).lookup a = entries.lookup a := by
  induction entries with
  | nil => simp [replace, List.lookup_cons, beq_false_of_ne h]
  | cons entry entries ih =>
    obtain ⟨first, child⟩ := entry
    by_cases hfirst : first = name
    · simp [replace, hfirst, List.lookup_cons, beq_false_of_ne h]
    · simp [replace, hfirst, List.lookup_cons, ih]

lemma replace_of_lookup {entries : List (String × Tree)} (h : entries.lookup name = some found) :
    replace name found entries = entries := by
  induction entries with
  | nil => cases h
  | cons entry entries ih =>
    obtain ⟨first, child⟩ := entry
    by_cases hfirst : first = name
    · subst hfirst
      simp only [List.lookup_cons, beq_self_eq_true, Option.some.injEq] at h
      simp [replace, h]
    · simp only [List.lookup_cons, beq_false_of_ne (Ne.symm hfirst)] at h
      simp [replace, hfirst, ih h]

@[simp] lemma child?_folder (entries : List (String × Tree)) : (folder entries).child? name = entries.lookup name :=
  rfl

lemma eq_folder_of_child? (h : t.child? name = some found) : t = folder t.entries := by
  cases t with
  | folder entries => rfl
  | text content => cases h
  | database tables => cases h

lemma find?_put (t : Tree) (path : Path) (new : Tree) : (t.put path new).find? path = some new := by
  induction path generalizing t with
  | nil => rfl
  | cons name path ih => simp [put, lookup_replace_self, ih]

lemma find?_put_of_apart (h : ¬ path <+: other) (h' : ¬ other <+: path) :
    (t.put path new).find? other = t.find? other := by
  induction path generalizing t other with
  | nil => exact absurd List.nil_prefix h
  | cons name path ih =>
    cases other with
    | nil => exact absurd List.nil_prefix h'
    | cons a other =>
      by_cases ha : a = name
      · subst ha
        simp only [List.cons_prefix_cons, true_and] at h h'
        simp only [put, find?_cons, child?_folder, lookup_replace_self, Option.bind_some, ih h h']
        -- Where the folder is made anew, nothing was below it before.
        cases t.child? a with
        | some child => rfl
        | none =>
          have hother : other ≠ [] := fun hnil => h' (hnil ▸ List.nil_prefix)
          obtain ⟨b, other, rfl⟩ := List.exists_cons_of_ne_nil hother
          rfl
      · simp only [put, find?_cons, child?_folder, lookup_replace_of_ne ha]
        rfl

lemma find?_put_sibling {a b : String} (h : a ≠ b) (t : Tree) (place : Path) (new : Tree) :
    (t.put (place ++ [a]) new).find? (place ++ [b]) = t.find? (place ++ [b]) := by
  refine find?_put_of_apart ((List.prefix_append_right_inj place).not.mpr ?_)
    ((List.prefix_append_right_inj place).not.mpr ?_)
  · simpa using h
  · simpa using h.symm

lemma put_of_find? (h : t.find? path = some found) : t.put path found = t := by
  induction path generalizing t with
  | nil => exact (Option.some.inj h).symm
  | cons name path ih =>
    obtain ⟨child, hchild, hfound⟩ := Option.bind_eq_some_iff.mp h
    have hentries : t.entries.lookup name = some child := hchild
    rw [put, hchild, Option.getD_some, ih hfound, replace_of_lookup hentries, ← eq_folder_of_child? hchild]

lemma hasFolder_of_find?_append (h : t.find? (path ++ [name]) = some found) : t.hasFolder path := by
  rw [find?_append] at h
  obtain ⟨folder, hfolder, h⟩ := Option.bind_eq_some_iff.mp h
  rw [hasFolder, hfolder, Option.any_some]
  by_contra hnot
  rw [find?_of_not_folder (Bool.eq_false_iff.mpr hnot) (List.cons_ne_nil _ _)] at h
  cases h

lemma hasFolder_of_prefix (h : t.hasFolder other) (hpath : path <+: other) : t.hasFolder path := by
  obtain ⟨rest, rfl⟩ := hpath
  cases rest with
  | nil => rwa [List.append_nil] at h
  | cons name rest =>
    rw [hasFolder, Option.any_eq_true] at h
    obtain ⟨found, hfound, -⟩ := h
    rw [← List.singleton_append, ← List.append_assoc, find?_append] at hfound
    obtain ⟨between, hbetween, -⟩ := Option.bind_eq_some_iff.mp hfound
    exact hasFolder_of_find?_append hbetween

end Tree

lemma Path.up_prefix (path : Path) : path.up <+: path := by
  rw [Path.up]
  split_ifs with h
  · exact h ▸ List.prefix_rfl
  · exact List.dropLast_prefix path

structure IsName (name : String) : Prop where
  point : name ≠ "."
  points : name ≠ ".."
  short : name.utf8ByteSize ≤ Files.maxName

namespace Route

lemma ofText_inFolder {folder file : String} (hfolder : folder ≠ "") (hslash : '/' ∉ file.toList)
    (hfile : file ≠ "") :
    ofText (inFolder folder file) = ⟨(ofText folder).start, (ofText folder).names ++ [file], false⟩ := by
  have hlast : file.toList ≠ [] := by simpa using hfile
  have hsplit : file.toList.splitOn '/' = [file.toList] := List.splitOn_eq_singleton hslash
  have hend : ('/' :: file.toList).getLast? ≠ some '/' := by
    rw [← List.singleton_append, List.getLast?_append_of_ne_nil _ hlast]
    exact fun h => hslash (List.mem_of_getLast? h)
  by_cases h : folder.toList.getLast? = some '/'
  · obtain ⟨cs, hcs⟩ := List.getLast?_eq_some_iff.mp h
    have htext : (inFolder folder file).toList = cs ++ '/' :: file.toList := by
      rw [inFolder, if_pos h, String.toList_append, hcs, List.append_assoc, List.singleton_append]
    simp [ofText, htext, hcs, List.splitOn_append_cons_self, hsplit, hfile, hend]
  · have hfirst : folder.toList ≠ [] := by simpa using hfolder
    have htext : (inFolder folder file).toList = folder.toList ++ '/' :: file.toList := by
      rw [inFolder, if_neg h, String.toList_append, String.toList_append, List.append_assoc]
      rfl
    simp [ofText, htext, -List.head?_append, List.head?_append_of_ne_nil _ hfirst, List.splitOn_append_cons_self,
      hsplit, hfile, hend]

lemma place_of_isName {r : Route} (h : ∀ name ∈ r.names, IsName name) : r.place = r.start ++ r.names := by
  obtain ⟨start, names, isFolder⟩ := r
  change names.foldl Path.walk start = start ++ names
  simp only at h
  induction names generalizing start with
  | nil => rw [List.append_nil, List.foldl_nil]
  | cons name names ih =>
    obtain ⟨hname, hnames⟩ := List.forall_mem_cons.mp h
    rw [List.foldl_cons, ih _ hnames, Path.walk, if_neg hname.point, if_neg hname.points, List.append_assoc,
      List.singleton_append]

end Route

end Roshambo.CommandLine
