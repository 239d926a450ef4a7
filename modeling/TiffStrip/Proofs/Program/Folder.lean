import TiffStrip.Program.Folder
import TiffStrip.Proofs.Program.FileSystem

/-!
# Folders as file systems

A path leads somewhere only by way of directories, and what files hold does not matter on the way. So
a file that is written changes what is found at its own location, and where paths lead is as before.
-/

namespace TiffStrip.Folder

variable {folder : Folder} {path : String} {location : Location} {content : Content}

theorem isDirectory_eq_true :
    folder.isDirectory location = true ↔
      location <+: folder.home ∨
        ∃ entry ∈ folder.files, location.length < entry.1.length ∧ location <+: entry.1 := by
  simp only [isDirectory, Bool.or_eq_true, List.any_eq_true, Bool.and_eq_true,
    decide_eq_true_eq, List.isPrefixOf_iff_prefix]

theorem checkDirectory_eq_ok :
    folder.checkDirectory location = .ok () ↔ folder.isDirectory location = true := by
  unfold checkDirectory
  by_cases h : folder.isDirectory location = true
  · simp only [h, if_true]
  · rw [if_neg h]
    simp [h]

/-- What is on the way to a directory is a directory. -/
theorem isDirectory_of_prefix {before : Location} (hinit : before <+: location)
    (h : folder.isDirectory location = true) : folder.isDirectory before = true := by
  rw [isDirectory_eq_true] at h ⊢
  obtain hhome | ⟨entry, hentry, hlength, hlocation⟩ := h
  · exact .inl (hinit.trans hhome)
  · exact .inr ⟨entry, hentry, Nat.lt_of_le_of_lt hinit.length_le hlength,
      hinit.trans hlocation⟩

/-- Where one more name leads, whatever there is. -/
def follow (location : Location) (name : String) : Location :=
  match name with
  | "." => location
  | ".." => location.dropLast
  | name => location ++ [name]

theorem follow_of_name {name : String} (hhere : name ≠ ".") (hup : name ≠ "..") :
    follow location name = location ++ [name] := by
  unfold follow
  split
  · exact absurd rfl hhere
  · exact absurd rfl hup
  · rfl

/-- Whether a name can be followed: dots always, others if they are not too long. -/
def Fits (name : String) : Prop :=
  name ≠ "." → name ≠ ".." → name.utf8ByteSize ≤ maxName

theorem child_eq_ok {name : String} {next : Location} :
    child location name = .ok next ↔ name.utf8ByteSize ≤ maxName ∧ location ++ [name] = next := by
  unfold child
  by_cases hlong : maxName < name.utf8ByteSize
  · rw [if_pos hlong]
    simp [Nat.not_le.mpr hlong]
  · rw [if_neg hlong]
    simp [Nat.le_of_not_lt hlong]

theorem step_eq_ok {next : Location} {name : String} :
    folder.step location name = .ok next ↔
      folder.isDirectory location = true ∧ Fits name ∧ follow location name = next := by
  have hstep : folder.step location name = folder.checkDirectory location >>= fun _ =>
      match name with
      | "." => .ok location
      | ".." => .ok location.dropLast
      | name => child location name := rfl
  rw [hstep, except_bind_eq_ok, ← checkDirectory_eq_ok]
  refine ⟨fun ⟨_, hdirectory, hnext⟩ => ⟨hdirectory, ?_⟩,
    fun ⟨hdirectory, hfits, hnext⟩ => ⟨(), hdirectory, ?_⟩⟩
  · by_cases hhere : name = "."
    · subst hhere
      exact ⟨fun h => absurd rfl h, Except.ok.inj hnext⟩
    by_cases hup : name = ".."
    · subst hup
      exact ⟨fun _ h => absurd rfl h, Except.ok.inj hnext⟩
    rw [follow_of_name hhere hup]
    split at hnext
    · exact absurd rfl hhere
    · exact absurd rfl hup
    · obtain ⟨hlength, hchild⟩ := child_eq_ok.mp hnext
      exact ⟨fun _ _ => hlength, hchild⟩
  · split
    · exact congrArg _ hnext
    · exact congrArg _ hnext
    · rename_i hhere hup
      rw [follow_of_name hhere hup] at hnext
      exact child_eq_ok.mpr ⟨hfits hhere hup, hnext⟩

theorem walk_append {origin : Location} {names : List String} {name : String} :
    folder.walk origin (names ++ [name]) = .ok location ↔
      ∃ parent, folder.walk origin names = .ok parent ∧ folder.isDirectory parent = true ∧
        Fits name ∧ follow parent name = location := by
  unfold walk
  rw [List.foldlM_append, except_bind_eq_ok]
  simp only [List.foldlM_cons, List.foldlM_nil, bind_pure, step_eq_ok]

/-- What the names of a path lead to. -/
def reach (folder : Folder) (path : String) : Except PathError Location := do
  folder.walk (← folder.start path) (Path.pieces path)

/-- A path leads to a location where there is, or could be, a file. -/
structure Leads (folder : Folder) (path : String) (location : Location) : Prop where
  reach : folder.reach path = .ok location
  noSlash : endsInSlash path = false
  free : folder.isDirectory location = false

theorem start_eq_ok {origin : Location} (h : folder.start path = .ok origin) :
    origin = if Path.Rooted path then [] else folder.home := by
  unfold start at h
  split at h
  · cases h
  · split at h
    · cases h
    · rename_i hpath
      cases h
      have hroot : Path.Rooted path := by
        rw [Path.Rooted, hpath, List.head?_cons]
      rw [if_pos hroot]
    · rename_i hslash
      cases h
      rw [if_neg]
      intro hroot
      obtain ⟨rest, hpath⟩ := List.head?_eq_some_iff.mp hroot
      exact hslash rest hpath

theorem isDirectory_start {origin : Location} (h : folder.start path = .ok origin) :
    folder.isDirectory origin = true := by
  rw [isDirectory_eq_true, start_eq_ok h]
  split
  · exact .inl List.nil_prefix
  · exact .inl (List.prefix_refl _)

/-- The last name on the way to a location that is no directory is its own name, in a directory. -/
theorem Leads.last (h : folder.Leads path location) :
    ∃ origin before parent name, folder.start path = .ok origin ∧
      Path.pieces path = before ++ [name] ∧ folder.walk origin before = .ok parent ∧
      folder.isDirectory parent = true ∧ name ≠ "." ∧ name ≠ ".." ∧
      child parent name = .ok location := by
  obtain ⟨origin, horigin, hwalk⟩ := except_bind_eq_ok.mp h.reach
  have hfree := h.free
  rcases List.eq_nil_or_concat (Path.pieces path) with hnone | ⟨before, name, hpieces⟩
  · rw [hnone] at hwalk
    cases hwalk
    rw [isDirectory_start horigin] at hfree
    cases hfree
  · rw [List.concat_eq_append] at hpieces
    rw [hpieces, walk_append] at hwalk
    obtain ⟨parent, hparent, hdirectory, hfits, rfl⟩ := hwalk
    have hhere : name ≠ "." := by
      rintro rfl
      rw [show follow parent "." = parent from rfl, hdirectory] at hfree
      cases hfree
    have hup : name ≠ ".." := by
      rintro rfl
      rw [show follow parent ".." = parent.dropLast from rfl,
        isDirectory_of_prefix (List.dropLast_prefix parent) hdirectory] at hfree
      cases hfree
    refine ⟨origin, before, parent, name, horigin, hpieces, hparent, hdirectory, hhere, hup, ?_⟩
    exact child_eq_ok.mpr ⟨hfits hhere hup, (follow_of_name hhere hup).symm⟩

/-- A location that a path leads to is in a directory. -/
theorem Leads.parent (h : folder.Leads path location) :
    folder.isDirectory location.dropLast = true := by
  obtain ⟨_, _, parent, name, _, _, _, hdirectory, _, _, hchild⟩ := h.last
  rwa [← (child_eq_ok.mp hchild).2, List.dropLast_concat]

/-- What is found at a location, nothing for a directory. -/
def found (folder : Folder) (location : Location) : Except PathError (Option Content) :=
  if folder.isDirectory location then .ok none
  else match folder.file? location with
    | some content => .ok (some content)
    | none => .error .missing

theorem found_eq_some :
    folder.found location = .ok (some content) ↔
      folder.isDirectory location = false ∧ folder.file? location = some content := by
  unfold found
  cases folder.isDirectory location with
  | true => simp
  | false =>
    cases hfile : folder.file? location with
    | none => simp
    | some held => simp

theorem find_eq : folder.find path = (do
    let location ← folder.reach path
    if endsInSlash path then folder.checkDirectory location
    folder.found location) := by
  unfold find reach
  rw [bind_assoc]
  rfl

/-- A file is found at a path just when it is at the location that the path leads to. -/
theorem find_eq_some :
    folder.find path = .ok (some content) ↔
      ∃ location, folder.Leads path location ∧ folder.file? location = some content := by
  rw [find_eq, except_bind_eq_ok]
  constructor
  · rintro ⟨location, hreach, hrest⟩
    cases hslash : endsInSlash path with
    | true =>
      simp only [hslash, if_true] at hrest
      obtain ⟨_, hcheck, hfound⟩ := except_bind_eq_ok.mp hrest
      have hfree := (found_eq_some.mp hfound).1
      rw [checkDirectory_eq_ok.mp hcheck] at hfree
      cases hfree
    | false =>
      simp only [hslash, Bool.false_eq_true, if_false] at hrest
      obtain ⟨hfree, hfile⟩ := found_eq_some.mp hrest
      exact ⟨location, ⟨hreach, hslash, hfree⟩, hfile⟩
  · rintro ⟨location, hleads, hfile⟩
    refine ⟨_, hleads.reach, ?_⟩
    simp only [hleads.noSlash, Bool.false_eq_true, if_false]
    exact found_eq_some.mpr ⟨hleads.free, hfile⟩

theorem reach_eq_walk {origin : Location} (h : folder.start path = .ok origin) :
    folder.reach path = folder.walk origin (Path.pieces path) := by
  rw [reach, h]
  rfl

/-- A path can be written to just when it leads to a location that is no directory. -/
theorem write_eq_ok {after : Folder} :
    folder.write path content = .ok after ↔
      ∃ location, folder.Leads path location ∧ folder.put location content = after := by
  unfold write
  constructor
  · intro h
    obtain ⟨origin, horigin, h⟩ := except_bind_eq_ok.mp h
    obtain ⟨parent, hparent, h⟩ := except_bind_eq_ok.mp h
    obtain ⟨_, hcheck, h⟩ := except_bind_eq_ok.mp h
    cases hlast : (Path.pieces path).getLast? with
    | none =>
      rw [hlast] at h
      cases h
    | some name =>
      simp only [hlast] at h
      obtain ⟨hplain, h⟩ := unless_eq_ok.mp h
      obtain ⟨location, hchild, h⟩ := except_bind_eq_ok.mp h
      obtain ⟨hfree, h⟩ := unless_eq_ok.mp h
      cases h
      simp only [not_or, Bool.not_eq_true] at hplain hfree
      obtain ⟨hlength, rfl⟩ := child_eq_ok.mp hchild
      obtain ⟨before, hpieces⟩ := List.getLast?_eq_some_iff.mp hlast
      rw [hpieces, List.dropLast_concat] at hparent
      have hreach : folder.reach path = .ok (parent ++ [name]) := by
        rw [reach_eq_walk horigin, hpieces, walk_append]
        exact ⟨parent, hparent, checkDirectory_eq_ok.mp hcheck, fun _ _ => hlength,
          follow_of_name hplain.1 hplain.2.1⟩
      exact ⟨_, ⟨hreach, hplain.2.2, hfree⟩, rfl⟩
  · rintro ⟨location, hleads, rfl⟩
    obtain ⟨origin, before, parent, name, horigin, hpieces, hwalk, hdirectory, hhere, hup,
      hchild⟩ := hleads.last
    have hplain : ¬(name = "." ∨ name = ".." ∨ endsInSlash path = true) := by
      simp [hhere, hup, hleads.noSlash]
    simp only [horigin, hpieces, List.dropLast_concat, List.getLast?_concat]
    refine except_bind_eq_ok.mpr ⟨origin, rfl, ?_⟩
    refine except_bind_eq_ok.mpr ⟨_, hwalk, ?_⟩
    refine except_bind_eq_ok.mpr ⟨(), checkDirectory_eq_ok.mpr hdirectory, ?_⟩
    refine unless_eq_ok.mpr ⟨hplain, ?_⟩
    refine except_bind_eq_ok.mpr ⟨_, hchild, ?_⟩
    exact unless_eq_ok.mpr ⟨by simp [hleads.free], rfl⟩

section

variable {other : Folder} (hhome : other.home = folder.home)
  (h : ∀ location, other.isDirectory location = folder.isDirectory location)

include h

/-- Where names lead depends on nothing but the directories. -/
theorem walk_alike {origin : Location} {names : List String} :
    other.walk origin names = .ok location ↔ folder.walk origin names = .ok location := by
  induction names generalizing origin with
  | nil => rfl
  | cons name names ih =>
    unfold walk at ih ⊢
    simp only [List.foldlM_cons, except_bind_eq_ok, step_eq_ok, h, ih]

include hhome

theorem leads_alike : other.Leads path location ↔ folder.Leads path location := by
  have hstart : other.start path = folder.start path := by
    rw [start, start, hhome]
  have hreach : other.reach path = .ok location ↔ folder.reach path = .ok location := by
    unfold reach
    simp only [except_bind_eq_ok, hstart, walk_alike h]
  constructor
  · intro hleads
    exact ⟨hreach.mp hleads.reach, hleads.noSlash, h _ ▸ hleads.free⟩
  · intro hleads
    exact ⟨hreach.mpr hleads.reach, hleads.noSlash, (h _).trans hleads.free⟩

end

theorem file?_put (place : Location) :
    (folder.put location content).file? place =
      if place = location then some content else folder.file? place := by
  unfold file? put
  by_cases hplace : place = location
  · rw [if_pos hplace, hplace, List.lookup_cons_self]
  · have hbeq : (place == location) = false := beq_eq_false_iff_ne.mpr hplace
    rw [if_neg hplace, List.lookup_cons, hbeq]
    dsimp only
    induction folder.files with
    | nil => rfl
    | cons entry rest ih =>
      obtain ⟨first, held⟩ := entry
      by_cases hfirst : first = location
      · have hother : (place == first) = false := by rwa [hfirst]
        simp only [hfirst, ne_eq, not_true_eq_false, decide_false, Bool.false_eq_true,
          not_false_eq_true, List.filter_cons_of_neg, ih, List.lookup_cons, hbeq]
      · simp only [ne_eq, hfirst, not_false_eq_true, decide_true, List.filter_cons_of_pos,
          List.lookup_cons, ih]

/-- A file that is put into a directory makes no directories and removes none. -/
theorem isDirectory_put (hparent : folder.isDirectory location.dropLast = true)
    (place : Location) :
    (folder.put location content).isDirectory place = folder.isDirectory place := by
  rw [Bool.eq_iff_iff]
  -- What is on the way to the location is a directory before and after.
  have hway : place.length < location.length → place <+: location →
      folder.isDirectory place = true := by
    intro hlength hinit
    have hparents := List.dropLast_prefix location
    refine isDirectory_of_prefix (List.prefix_of_prefix_length_le hinit hparents ?_) hparent
    rw [List.length_dropLast]
    omega
  constructor
  · intro h
    rw [isDirectory_eq_true] at h
    obtain hhome | ⟨entry, hentry, hlength, hinit⟩ := h
    · exact isDirectory_eq_true.mpr (.inl hhome)
    · simp only [put, List.mem_cons, List.mem_filter] at hentry
      obtain rfl | ⟨hentry, _⟩ := hentry
      · exact hway hlength hinit
      · exact isDirectory_eq_true.mpr (.inr ⟨entry, hentry, hlength, hinit⟩)
  · intro h
    rw [isDirectory_eq_true] at h ⊢
    obtain hhome | ⟨entry, hentry, hlength, hinit⟩ := h
    · exact .inl hhome
    · refine .inr ?_
      by_cases hsame : entry.1 = location
      · rw [hsame] at hlength hinit
        exact ⟨(location, content), List.mem_cons_self, hlength, hinit⟩
      · refine ⟨entry, List.mem_cons_of_mem _ ?_, hlength, hinit⟩
        simp [hentry, hsame]

/-- Writing to a path leaves alone where paths lead. -/
theorem leads_put {written : String} {place : Location} (h : folder.Leads written location) :
    (folder.put location content).Leads path place ↔ folder.Leads path place :=
  leads_alike rfl (isDirectory_put h.parent)

/-- The location that a path leads to, if there is or could be a file. -/
def place? (folder : Folder) (path : String) : Option Location :=
  match folder.reach path with
  | .ok location => if endsInSlash path || folder.isDirectory location then none else some location
  | .error _ => none

theorem place?_eq_some : folder.place? path = some location ↔ folder.Leads path location := by
  unfold place?
  constructor
  · intro h
    cases hreach : folder.reach path with
    | error error =>
      rw [hreach] at h
      cases h
    | ok found =>
      rw [hreach] at h
      by_cases hbusy : (endsInSlash path || folder.isDirectory found) = true
      · simp [hbusy] at h
      · simp only [hbusy, if_false, Option.some.injEq, Bool.false_eq_true] at h
        subst h
        simp only [Bool.or_eq_true, not_or, Bool.not_eq_true] at hbusy
        exact ⟨hreach, hbusy.1, hbusy.2⟩
  · intro h
    rw [h.reach]
    simp [h.noSlash, h.free]

def view (png : Picture → Array UInt8) : FileView Folder Location where
  place? := place?
  held? folder location := (folder.file? location).map (Content.bytes png)

theorem run_write (png : Picture → Array UInt8) (folder : Folder) (path : String)
    (content : Content) :
    ((system png).write path content).run folder =
      match folder.write path content with
      | .ok after => (.ok (), after)
      | .error error => (.error error, folder) := by
  have hget : (get : StateM Folder Folder).run folder = (folder, folder) := rfl
  unfold system
  dsimp only
  rw [run_bind hget]
  cases folder.write path content <;> rfl

theorem read_eq_ok {png : Picture → Array UInt8} {bytes : Array UInt8} :
    folder.read png path = .ok bytes ↔
      ∃ content, folder.find path = .ok (some content) ∧ content.bytes png = bytes := by
  unfold read
  rw [except_bind_eq_ok]
  constructor
  · rintro ⟨found, hfind, hread⟩
    cases found with
    | none => cases hread
    | some content =>
      cases hread
      exact ⟨content, hfind, rfl⟩
  · rintro ⟨content, hfind, rfl⟩
    exact ⟨some content, hfind, rfl⟩

/-- A folder reads and writes files as a whole. -/
theorem whole (png : Picture → Array UInt8) : (system png).Whole png (view png) where
  size_keeps _ _ := rfl
  read_keeps _ _ := rfl
  read_all folder path bytes h := by
    obtain ⟨content, hfind, rfl⟩ := read_eq_ok.mp h
    obtain ⟨location, hleads, hfile⟩ := find_eq_some.mp hfind
    exact ⟨location, place?_eq_some.mpr hleads, congrArg (Option.map _) hfile⟩
  size_all folder path bytes h := by
    obtain ⟨content, hfind, rfl⟩ := read_eq_ok.mp h
    change folder.size png path = _
    rw [size, hfind]
    rfl
  write_all folder path content h := by
    rw [run_write] at h ⊢
    cases hwrite : folder.write path content with
    | error error =>
      rw [hwrite] at h
      cases h
    | ok after =>
      obtain ⟨location, hleads, rfl⟩ := write_eq_ok.mp hwrite
      refine ⟨location, place?_eq_some.mpr hleads, ?_, ?_, fun other hother => ?_⟩
      · funext path
        exact Option.ext fun place =>
          place?_eq_some.trans ((leads_put hleads).trans place?_eq_some.symm)
      · change ((folder.put location content).file? location).map _ = _
        rw [file?_put, if_pos rfl]
        rfl
      · change ((folder.put location content).file? other).map _ = _
        rw [file?_put, if_neg hother]
        rfl
  write_none folder path content error h := by
    rw [run_write] at h ⊢
    cases hwrite : folder.write path content with
    | error error => exact FileView.Unchanged.refl _ _
    | ok after =>
      rw [hwrite] at h
      cases h

theorem foldl_follow (names : List String) (origin : Location) :
    names.foldl follow origin = (names.filter (· ≠ ".")).foldl follow origin := by
  induction names generalizing origin with
  | nil => rfl
  | cons name names ih =>
    by_cases hhere : name = "."
    · subst hhere
      exact ih origin
    · rw [List.filter_cons_of_pos (by simp [hhere]), List.foldl_cons, List.foldl_cons, ih]

theorem walk_eq_ok {origin : Location} {names : List String}
    (h : folder.walk origin names = .ok location) : names.foldl follow origin = location := by
  induction names generalizing origin with
  | nil =>
    cases h
    rfl
  | cons name names ih =>
    unfold walk at h ih
    rw [List.foldlM_cons, except_bind_eq_ok] at h
    obtain ⟨next, hstep, hrest⟩ := h
    obtain ⟨_, _, rfl⟩ := step_eq_ok.mp hstep
    exact ih hrest

/-- Where a path leads, if it leads anywhere, can be told from its names. -/
theorem Leads.location_eq (h : folder.Leads path location) :
    location = (Path.names path).foldl follow (if Path.Rooted path then [] else folder.home) := by
  obtain ⟨origin, horigin, hwalk⟩ := except_bind_eq_ok.mp h.reach
  rw [← start_eq_ok horigin, ← walk_eq_ok hwalk, foldl_follow]
  rfl

theorem ignoresDots (png : Picture → Array UInt8) : (view png).IgnoresDots := by
  intro folder a b p q hspelled ha hb
  rw [(place?_eq_some.mp ha).location_eq, (place?_eq_some.mp hb).location_eq, hspelled.names]
  simp only [hspelled.rooted]

end TiffStrip.Folder
