import Roshambo.Proofs.Places
import Roshambo.Proofs.Sessions

/-! The disk in memory keeps what it is given, so a ledger can have its folder there. -/

namespace Roshambo.CommandLine

namespace Files

variable {fs fs' : Files} {place next file : Path} {names : List String} {name text content : String} {found : Tree}

lemma enter_of_isName (hname : IsName name) (h : fs.tree.hasFolder (place ++ [name])) :
    fs.enter place name = .ok (place ++ [name]) := by
  obtain ⟨found, hfound, hfolder⟩ := (Option.any_eq_true _ _).mp h
  cases found with
  | folder entries => simp [enter, hname.point, hname.points, Nat.not_lt.mpr hname.short, hfound]
  | text content => cases hfolder
  | database tables => cases hfolder

lemma foldlM_enter_of_isName (hnames : ∀ name ∈ names, IsName name) (h : fs.tree.hasFolder (place ++ names)) :
    names.foldlM fs.enter place = .ok (place ++ names) := by
  induction names generalizing place with
  | nil => rw [List.append_nil, List.foldlM_nil]; rfl
  | cons name names ih =>
    obtain ⟨hname, hnames⟩ := List.forall_mem_cons.mp hnames
    rw [← List.singleton_append, ← List.append_assoc] at h ⊢
    have hfirst := enter_of_isName hname (Tree.hasFolder_of_prefix h (List.prefix_append _ _))
    rw [List.singleton_append, List.foldlM_cons, hfirst, ok_bind, ih hnames h]

structure Leads (text : String) (place : Path) : Prop where
  short : text.utf8ByteSize ≤ maxRoute
  named : (Route.ofText text).names ≠ []
  names : ∀ name ∈ (Route.ofText text).names, IsName name
  place : (Route.ofText text).start ++ (Route.ofText text).names = place

namespace Leads

variable (leads : Leads text place)

include leads

lemma nonempty : text ≠ "" := by
  rintro rfl
  exact leads.named rfl

lemma target (hfolder : fs.tree.hasFolder place.dropLast) :
    ∃ name, name.utf8ByteSize ≤ maxName ∧
      fs.target text = .ok (.entry place name (Route.ofText text).isFolder (fs.tree.find? place)) := by
  obtain ⟨names, name, hnames⟩ := (List.eq_nil_or_concat' _).resolve_left leads.named
  have hplace := leads.place
  rw [hnames, ← List.append_assoc] at hplace
  rw [← hplace, List.dropLast_concat] at hfolder
  have hall := leads.names
  rw [hnames, List.forall_mem_append] at hall
  have hname := hall.2 name List.mem_cons_self
  refine ⟨name, hname.short, ?_⟩
  simp [Files.target, leads.nonempty, Nat.not_lt.mpr leads.short, hnames, foldlM_enter_of_isName hall.1 hfolder,
    hname.point, hname.points, hplace]

lemma makeFolder_found (hfound : fs.tree.find? place = some found) (hfolder : fs.tree.hasFolder place.dropLast) :
    fs.makeFolder text = .error .alreadyThere := by
  obtain ⟨name, hname, htarget⟩ := leads.target hfolder
  rw [makeFolder, htarget]
  simp [checkName, Nat.not_lt.mpr hname, hfound]

lemma makeFolder_absent (habsent : fs.tree.find? place = none) (hfolder : fs.tree.hasFolder place.dropLast) :
    fs.makeFolder text = .ok (fs.put place .empty) := by
  obtain ⟨name, hname, htarget⟩ := leads.target hfolder
  rw [makeFolder, htarget]
  simp [checkName, Nat.not_lt.mpr hname, habsent]

lemma isFolder (h : fs.tree.hasFolder place) : fs.isFolder text := by
  obtain ⟨name, -, htarget⟩ := leads.target (Tree.hasFolder_of_prefix h (List.dropLast_prefix place))
  rw [Files.isFolder, htarget]
  exact h

lemma readText_found (hfile : (Route.ofText text).isFolder = false)
    (hfound : fs.tree.find? place = some (.text content)) (hfolder : fs.tree.hasFolder place.dropLast) :
    fs.readText text = .ok content := by
  obtain ⟨name, hname, htarget⟩ := leads.target hfolder
  rw [readText, htarget]
  simp [checkName, Nat.not_lt.mpr hname, hfound, hfile]

lemma readText_absent (habsent : fs.tree.find? place = none) (hfolder : fs.tree.hasFolder place.dropLast) :
    fs.readText text = .error .notFound := by
  obtain ⟨name, hname, htarget⟩ := leads.target hfolder
  rw [readText, htarget]
  simp [checkName, Nat.not_lt.mpr hname, habsent]

lemma writeText_absent (hfile : (Route.ofText text).isFolder = false) (habsent : fs.tree.find? place = none)
    (hfolder : fs.tree.hasFolder place.dropLast) :
    fs.writeText text content = .ok (fs.put place (.text content)) := by
  obtain ⟨name, hname, htarget⟩ := leads.target hfolder
  rw [writeText, htarget]
  simp [checkName, Nat.not_lt.mpr hname, habsent, hfile]

end Leads

lemma walk_of_enter (h : fs.enter place name = .ok next) : next = place.walk name := by
  rw [enter] at h
  split_ifs at h with hpoints
  · exact (Except.ok.inj h).symm
  · obtain ⟨hpoint, hpoints⟩ := not_or.mp hpoints
    rw [Path.walk, if_neg hpoint, if_neg hpoints]
    split at h <;> cases h
    rfl

/-- No way goes through a file. -/
lemma not_prefix_of_enter (hfound : fs.tree.find? file = some found) (hfile : found.isFolder = false)
    (hplace : ¬ file <+: place) (h : fs.enter place name = .ok next) : ¬ file <+: next := by
  intro hnext
  rw [enter] at h
  split_ifs at h with hpoints
  · obtain rfl := Except.ok.inj h
    refine hplace (hnext.trans ?_)
    rcases hpoints with rfl | rfl
    · exact List.prefix_rfl
    · exact Path.up_prefix place
  · split at h <;> cases h
    rename_i entries hentries
    rcases List.prefix_concat_iff.mp hnext with rfl | hnext
    · obtain rfl := Option.some.inj (hfound.symm.trans hentries)
      cases hfile
    · exact hplace hnext

lemma walk_of_foldlM_enter (h : names.foldlM fs.enter place = .ok next) : next = names.foldl Path.walk place := by
  induction names generalizing place with
  | nil => exact (Except.ok.inj h).symm
  | cons name names ih =>
    obtain ⟨between, hname, hnames⟩ := bind_eq_ok_iff.mp h
    rw [List.foldl_cons, ← walk_of_enter hname, ih hnames]

lemma not_prefix_of_foldlM_enter (hfound : fs.tree.find? file = some found) (hfile : found.isFolder = false)
    (hplace : ¬ file <+: place) (h : names.foldlM fs.enter place = .ok next) : ¬ file <+: next := by
  induction names generalizing place with
  | nil =>
    obtain rfl := Except.ok.inj h
    exact hplace
  | cons name names ih =>
    obtain ⟨between, hname, hnames⟩ := bind_eq_ok_iff.mp h
    exact ih (not_prefix_of_enter hfound hfile hplace hname) hnames

lemma target_eq_entry {isFolder : Bool} {entry : Option Tree}
    (h : fs.target text = .ok (.entry place name isFolder entry)) :
    place = (Route.ofText text).place ∧ entry = fs.tree.find? place ∧ ∃ around, place = around ++ [name] ∧
      (Route.ofText text).names.dropLast.foldlM fs.enter (Route.ofText text).start = .ok around := by
  obtain ⟨-, h⟩ := guard_eq_ok_iff.mp h
  obtain ⟨-, h⟩ := guard_eq_ok_iff.mp h
  obtain ⟨around, haround, h⟩ := bind_eq_ok_iff.mp h
  obtain hnil | ⟨names, last, hnames⟩ := List.eq_nil_or_concat' (Route.ofText text).names
  · rw [hnil] at h
    cases h
  · rw [hnames, List.getLast?_concat] at h
    simp only at h
    split_ifs at h with hlast
    · cases h
    · cases h
      obtain ⟨hpoint, hpoints⟩ := not_or.mp hlast
      refine ⟨?_, rfl, around, rfl, haround⟩
      rw [hnames, List.dropLast_concat] at haround
      rw [Route.place, hnames, List.foldl_concat, ← walk_of_foldlM_enter haround, Path.walk, if_neg hpoint,
        if_neg hpoints]

lemma writeText_eq_ok (h : fs.writeText text content = .ok fs') :
    ∃ place, (Route.ofText text).place = place ∧ fs' = fs.put place (.text content) ∧
      fs.tree.hasFolder place = false ∧ ∀ {file found}, fs.tree.find? file = some found → found.isFolder = false →
        ¬ file <+: (Route.ofText text).start → file <+: place → file = place := by
  obtain ⟨target, htarget, h⟩ := bind_eq_ok_iff.mp h
  cases target with
  | folder => cases h
  | entry place name isFolder entry =>
    obtain ⟨hroute, rfl, around, rfl, haround⟩ := target_eq_entry htarget
    cases isFolder with
    | true => cases h
    | false =>
      obtain ⟨-, -, h⟩ := bind_eq_ok_iff.mp h
      split_ifs at h with hfolder
      obtain rfl := Except.ok.inj h
      refine ⟨_, hroute.symm, rfl, Bool.eq_false_of_not_eq_true hfolder, fun hfound hfile hstart hprefix => ?_⟩
      exact (List.prefix_concat_iff.mp hprefix).resolve_right (not_prefix_of_foldlM_enter hfound hfile hstart haround)

lemma not_prefix_start (hname : name ≠ "/") : ¬ place ++ [name] <+: (Route.ofText text).start := by
  intro h
  have hmem : name ∈ (Route.ofText text).start := h.subset List.mem_concat_self
  simp only [Route.ofText] at hmem
  split_ifs at hmem
  · exact hname (List.mem_singleton.mp hmem)
  · cases hmem

lemma find?_writeText (h : fs.writeText text content = .ok fs') (hfound : fs.tree.find? (place ++ [name]) = some found)
    (hfile : found.isFolder = false) (hname : name ≠ "/") (hne : (Route.ofText text).place ≠ place ++ [name]) :
    fs'.tree.find? (place ++ [name]) = some found := by
  obtain ⟨written, rfl, rfl, hfolder, hunder⟩ := writeText_eq_ok h
  rw [put, Tree.find?_put_of_apart ?_ ?_, hfound]
  · intro hprefix
    obtain hsame | hprefix := List.prefix_concat_iff.mp hprefix
    · exact hne hsame
    · rw [Tree.hasFolder_of_prefix (Tree.hasFolder_of_find?_append hfound) hprefix] at hfolder
      cases hfolder
  · intro hprefix
    exact hne (hunder hfound hfile (not_prefix_start hname) hprefix).symm

lemma Leads.inFolder {folder file : String} (leads : Leads folder place) (hname : IsName file)
    (hslash : '/' ∉ file.toList) (hfile : file ≠ "") (short : (inFolder folder file).utf8ByteSize ≤ maxRoute) :
    Leads (inFolder folder file) (place ++ [file]) ∧ (Route.ofText (inFolder folder file)).isFolder = false := by
  have hroute := Route.ofText_inFolder leads.nonempty hslash hfile
  refine ⟨⟨short, ?_, ?_, ?_⟩, congrArg Route.isFolder hroute⟩
  · rw [hroute]
    exact List.concat_ne_nil _ _
  · rw [hroute, List.forall_mem_append]
    exact ⟨leads.names, List.forall_mem_singleton.mpr hname⟩
  · rw [hroute, ← List.append_assoc, leads.place]

def databaseOf (folder : String) : DatabaseName :=
  ⟨inFolder folder databaseName, some (inFolder folder databaseName), true⟩

def fileNames : List String := [configName, databaseName]

structure Home (folder : String) (place : Path) : Prop where
  leads : Leads folder place
  short : ∀ file ∈ fileNames, (inFolder folder file).utf8ByteSize ≤ maxRoute
  named : DatabaseName.ofText (inFolder folder databaseName) = .ok (databaseOf folder)

structure Contains (config : NodeConfig) (place : Path) (tables : Database) (fs : Files) : Prop where
  config : ∃ text, fs.tree.find? (place ++ [configName]) = some (.text text) ∧ NodeConfig.ofText? text = some config
  tables : fs.tree.find? (place ++ [databaseName]) = some (.database tables)
  reach : fs.fullName (place ++ [databaseName]) ≤ maxDatabaseName

def Apart (place : Path) (file : String) : Prop :=
  (Route.ofText file).place ≠ place ++ [configName] ∧ (Route.ofText file).place ≠ place ++ [databaseName]

variable {folder : String} {config : NodeConfig} {tables : Database}

namespace Contains

variable (contains : Contains config place tables fs)

include contains

lemma hasFolder : fs.tree.hasFolder place := Tree.hasFolder_of_find?_append contains.tables

lemma saved (tables' : Database) :
    Contains config place tables' (fs.put (place ++ [databaseName]) (.database tables')) := by
  obtain ⟨text, htext, hconfig⟩ := contains.config
  refine ⟨⟨text, ?_, hconfig⟩, Tree.find?_put _ _ _, contains.reach⟩
  rw [put, Tree.find?_put_sibling (by decide), htext]

lemma written (h : fs.writeText text content = .ok fs') (hapart : Apart place text) :
    Contains config place tables fs' := by
  obtain ⟨written, hwritten, hconfig⟩ := contains.config
  refine ⟨⟨written, ?_, hconfig⟩, ?_, ?_⟩
  · exact find?_writeText h hwritten rfl (by decide) hapart.1
  · exact find?_writeText h contains.tables rfl (by decide) hapart.2
  · obtain ⟨-, -, rfl, -⟩ := writeText_eq_ok h
    exact contains.reach

end Contains

namespace Home

variable (home : Home folder place)

include home

lemma leads_file {file : String} (h : file ∈ fileNames) :
    Leads (inFolder folder file) (place ++ [file]) ∧ (Route.ofText (inFolder folder file)).isFolder = false := by
  have hname : ∀ file ∈ fileNames, (file ≠ "." ∧ file ≠ ".." ∧ file.utf8ByteSize ≤ maxName) ∧
      '/' ∉ file.toList ∧ file ≠ "" := by decide
  obtain ⟨⟨hpoint, hpoints, hshort⟩, hslash, hfile⟩ := hname file h
  exact home.leads.inFolder ⟨hpoint, hpoints, hshort⟩ hslash hfile (home.short file h)

lemma databasePath : databasePath (databaseOf folder) = some (place ++ [databaseName]) := by
  obtain ⟨leads, -⟩ := home.leads_file (List.mem_cons_of_mem _ List.mem_cons_self)
  exact congrArg some ((Route.place_of_isName leads.names).trans leads.place)

lemma saveDatabase (tables : Database) :
    fs.saveDatabase (databaseOf folder) tables = fs.put (place ++ [databaseName]) (.database tables) := by
  rw [Files.saveDatabase, home.databasePath]

lemma openDatabase_found (contains : Contains config place tables fs) :
    fs.openDatabase (databaseOf folder) = .ok tables := by
  simp [openDatabase, home.databasePath, openFile, contains.hasFolder, contains.tables, Nat.not_lt.mpr contains.reach]

lemma openDatabase_absent (hfolder : fs.tree.hasFolder place)
    (habsent : fs.tree.find? (place ++ [databaseName]) = none)
    (reach : fs.fullName (place ++ [databaseName]) ≤ maxDatabaseName) :
    fs.openDatabase (databaseOf folder) = .ok .empty := by
  have hcreate : (databaseOf folder).mayCreate := rfl
  simp [openDatabase, home.databasePath, openFile, hfolder, habsent, Nat.not_lt.mpr reach, hcreate]

end Home

lemma update_of_ok (change : Files → Except DiskFault Files) (h : change fs = .ok fs') :
    update change fs = (.ok (), fs') := by
  rw [update, h]

lemma update_of_error (change : Files → Except DiskFault Files) {fault : DiskFault} (h : change fs = .error fault) :
    update change fs = (.error fault, fs) := by
  rw [update, h]

lemma createFolder_found (leads : Leads folder place) (hfolder : fs.tree.hasFolder place) :
    (createFolder folder : StateM Files _) fs = (.ok (), fs) := by
  obtain ⟨found, hfound, -⟩ := (Option.any_eq_true _ _).mp hfolder
  have hmake : (Disk.makeFolder folder : StateM Files _) fs = (.error .alreadyThere, fs) :=
    update_of_error (fun fs => fs.makeFolder folder)
      (leads.makeFolder_found hfound (Tree.hasFolder_of_prefix hfolder (List.dropLast_prefix place)))
  have hthere : (Disk.isFolder folder : StateM Files Bool) fs = (true, fs) :=
    congrArg (·, fs) (leads.isFolder hfolder)
  simp only [createFolder, makeFolders, allowFolder, state_bind_apply, hmake, hthere]
  rfl

lemma createFolder_absent (leads : Leads folder place) (habsent : fs.tree.find? place = none)
    (hfolder : fs.tree.hasFolder place.dropLast) :
    (createFolder folder : StateM Files _) fs = (.ok (), fs.put place .empty) := by
  have hmake : (Disk.makeFolder folder : StateM Files _) fs = (.ok (), fs.put place .empty) :=
    update_of_ok (fun fs => fs.makeFolder folder) (leads.makeFolder_absent habsent hfolder)
  simp only [createFolder, makeFolders, allowFolder, state_bind_apply, hmake]
  rfl

lemma openDatabase_of_ok {name : DatabaseName} (h : fs.openDatabase name = .ok tables) :
    (Disk.openDatabase name : StateM Files _) fs = (.ok tables, fs.saveDatabase name tables) := by
  simp only [Disk.openDatabase, h]

theorem reliable (home : Home folder place) :
    Reliable folder config (databaseOf folder) (Apart place) (Contains config place) where
  named := home.named
  entered := fun contains => createFolder_found home.leads contains.hasFolder
  configured := by
    intro tables fs contains
    obtain ⟨text, htext, hconfig⟩ := contains.config
    obtain ⟨leads, hfile⟩ := home.leads_file List.mem_cons_self
    refine ⟨text, congrArg (·, fs) (leads.readText_found hfile htext ?_), hconfig⟩
    rw [List.dropLast_concat]
    exact contains.hasFolder
  opened := by
    intro tables fs contains
    rw [openDatabase_of_ok (home.openDatabase_found contains), home.saveDatabase, put,
      Tree.put_of_find? contains.tables]
  saved := by
    intro tables fs tables' contains
    change Contains config place tables' (fs.saveDatabase (databaseOf folder) tables')
    rw [home.saveDatabase]
    exact contains.saved tables'
  read := fun _ _ => rfl
  written := by
    intro tables fs file text contains hapart
    change Contains config place tables (update (fun fs => fs.writeText file text) fs).2
    cases hwrite : fs.writeText file text with
    | ok fs' =>
      rw [update_of_ok _ hwrite]
      exact contains.written hwrite hapart
    | error fault =>
      rw [update_of_error _ hwrite]
      exact contains

lemma loadConfig_absent (home : Home folder place) (hfolder : fs.tree.hasFolder place)
    (habsent : fs.tree.find? (place ++ [configName]) = none) :
    (loadConfig folder : ExceptT Failure (StateM Files) NodeConfig).run fs =
      (.ok .initial, fs.put (place ++ [configName]) (.text NodeConfig.initial.toJson.pretty)) := by
  obtain ⟨leads, hfile⟩ := home.leads_file List.mem_cons_self
  have hparent : fs.tree.hasFolder (place ++ [configName]).dropLast := by rwa [List.dropLast_concat]
  have hread : (Disk.readText (inFolder folder configName) : StateM Files _) fs = (.error .notFound, fs) :=
    congrArg (·, fs) (leads.readText_absent habsent hparent)
  have hwrite : (Disk.writeText (inFolder folder configName) NodeConfig.initial.toJson.pretty : StateM Files _) fs =
      (.ok (), fs.put (place ++ [configName]) (.text NodeConfig.initial.toJson.pretty)) :=
    update_of_ok (fun fs => fs.writeText _ _) (leads.writeText_absent hfile habsent hparent)
  rw [loadConfig, except_bind_apply, except_lift_apply, hread]
  simp only [except_bind_apply, except_lift_apply, hwrite]
  rfl

def furnish (fs : Files) (place : Path) : Files :=
  ((fs.put place .empty).put (place ++ [configName]) (.text NodeConfig.initial.toJson.pretty)).put
    (place ++ [databaseName]) (.database .empty)

lemma contains_furnish (reach : fs.fullName (place ++ [databaseName]) ≤ maxDatabaseName) :
    Contains .initial place .empty (fs.furnish place) := by
  refine ⟨⟨_, ?_, NodeConfig.ofText?_pretty .initial⟩, Tree.find?_put _ _ _, reach⟩
  rw [furnish, put, Tree.find?_put_sibling (by decide), put, Tree.find?_put]

lemma openFolder_absent (home : Home folder place) (habsent : fs.tree.find? place = none)
    (hfolder : fs.tree.hasFolder place.dropLast) (reach : fs.fullName (place ++ [databaseName]) ≤ maxDatabaseName) :
    (openFolder folder : ExceptT Failure (StateM Files) Session).run fs =
      ((Node.restore .initial .empty).map fun node => ⟨node, databaseOf folder, []⟩, fs.furnish place) := by
  have hentered := createFolder_absent home.leads habsent hfolder
  rw [furnish]
  set made := fs.put place .empty
  have hplace : made.tree.find? place = some .empty := Tree.find?_put _ _ _
  have hmade : made.tree.hasFolder place := by
    rw [Tree.hasFolder, hplace]
    rfl
  have hnone : ∀ file, made.tree.find? (place ++ [file]) = none := by
    intro file
    rw [Tree.find?_append, hplace]
    rfl
  have hloaded := loadConfig_absent home hmade (hnone _)
  have htables := Tree.find?_put_sibling (show configName ≠ databaseName by decide) made.tree place
    (.text NodeConfig.initial.toJson.pretty)
  rw [hnone] at htables
  set configured := made.put (place ++ [configName]) (.text NodeConfig.initial.toJson.pretty)
  have hconfigured : configured.tree.hasFolder place := Tree.hasFolder_of_find?_append (Tree.find?_put _ _ _)
  have hopen := openDatabase_of_ok (home.openDatabase_absent hconfigured htables reach)
  have hvalid : NodeConfig.initial.validate = .ok () := by decide +kernel
  rw [openFolder, except_bind_apply, except_lift_apply, hentered]
  simp only [except_bind_apply, except_lift_apply, except_ofExcept_apply, hloaded, hvalid, home.named,
    hopen, Except.mapError, home.saveDatabase]
  cases Node.restore .initial .empty <;> rfl

end Files

end Roshambo.CommandLine
