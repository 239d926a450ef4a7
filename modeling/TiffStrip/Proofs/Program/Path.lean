import Mathlib.Data.List.Basic
import TiffStrip.Program.Settings
import TiffStrip.Proofs.Simulation

namespace TiffStrip

namespace Path

def Rooted (path : String) : Prop :=
  path.toList.head? = some '/'

def StartsHere (path : String) : Prop :=
  ¬Rooted path ∧ (pieces path).head? = some "."

instance (path : String) : Decidable (Rooted path) :=
  inferInstanceAs (Decidable (path.toList.head? = some '/'))

instance (path : String) : Decidable (StartsHere path) :=
  inferInstanceAs (Decidable (¬Rooted path ∧ (pieces path).head? = some "."))

/-- The names on a path, and the dots that lead up. -/
def names (path : String) : List String :=
  (pieces path).filter (· ≠ ".")

/-- Two paths differ in slashes and in dots that lead nowhere, if at all. -/
structure Respelled (a b : String) : Prop where
  rooted : Rooted a ↔ Rooted b
  names : names a = names b

instance (a b : String) : Decidable (Respelled a b) :=
  decidable_of_iff ((Rooted a ↔ Rooted b) ∧ names a = names b)
    ⟨fun h => ⟨h.1, h.2⟩, fun h => ⟨h.rooted, h.names⟩⟩

def component (piece : String) : Component :=
  if piece = ".." then .up else .name piece

theorem component_injective : Function.Injective component := by
  intro a b h
  unfold component at h
  split at h <;> split at h
  · rename_i ha hb
    exact ha.trans hb.symm
  · cases h
  · cases h
  · exact Component.name.inj h

theorem component?_eq {piece : String} :
    component? piece = if piece = "." then none else some (component piece) := by
  unfold component? component
  split
  · rfl
  · rfl
  · rename_i hhere hup
    rw [if_neg hhere, if_neg hup]

theorem filterMap_component? (pieces : List String) :
    pieces.filterMap component? = (pieces.filter (· ≠ ".")).map component := by
  induction pieces with
  | nil => rfl
  | cons piece rest ih =>
    rw [List.filterMap_cons, component?_eq]
    by_cases hhere : piece = "."
    · rw [if_pos hhere, List.filter_cons_of_neg (by simp [hhere])]
      exact ih
    · rw [if_neg hhere, List.filter_cons_of_pos (by simp [hhere]), List.map_cons]
      exact congrArg _ ih

/-- What the components of a path say of its start. -/
def head (path : String) : List Component :=
  if Rooted path then [.root] else if StartsHere path then [.here] else []

theorem components_eq (path : String) :
    components path = head path ++ (names path).map component := by
  have hparts : components path =
      if Rooted path then .root :: (names path).map component
      else if (pieces path).head? = some "." then .here :: (names path).map component
      else (names path).map component := by
    rw [components, filterMap_component?]
    rfl
  rw [hparts, head]
  by_cases hroot : Rooted path
  · rw [if_pos hroot, if_pos hroot]
    rfl
  · rw [if_neg hroot, if_neg hroot]
    by_cases hhere : (pieces path).head? = some "."
    · rw [if_pos hhere, if_pos ⟨hroot, hhere⟩]
      rfl
    · rw [if_neg hhere, if_neg fun h => hhere h.2]
      rfl

theorem component_ne {c : Component} (h : c = .root ∨ c = .here) (piece : String) :
    component piece ≠ c := by
  unfold component
  rintro rfl
  split at h <;> simp at h

/-- The start of a path can be told from the names after it. -/
theorem head_append_inj {a b : String} {as bs : List String}
    (h : head a ++ as.map component = head b ++ bs.map component) : head a = head b ∧ as = bs := by
  have hstart (path : String) : head path = [] ∨ ∃ c, (c = .root ∨ c = .here) ∧ head path = [c] := by
    unfold head
    split
    · exact .inr ⟨_, .inl rfl, rfl⟩
    · split
      · exact .inr ⟨_, .inr rfl, rfl⟩
      · exact .inl rfl
  have hnames {c : Component} (hc : c = .root ∨ c = .here) {names rest : List String} :
      names.map component ≠ c :: rest.map component := by
    cases names with
    | nil => simp
    | cons name names => simp [component_ne hc]
  have hinjective := component_injective.list_map
  rcases hstart a with ha | ⟨c, hc, ha⟩ <;> rcases hstart b with hb | ⟨d, hd, hb⟩ <;>
    rw [ha, hb] at h ⊢
  · exact ⟨rfl, hinjective h⟩
  · exact absurd h (hnames hd)
  · exact absurd h.symm (hnames hc)
  · obtain ⟨rfl, hrest⟩ := List.cons.inj h
    exact ⟨rfl, hinjective hrest⟩

theorem head_eq_iff {a b : String} :
    head a = head b ↔ (Rooted a ↔ Rooted b) ∧ (StartsHere a ↔ StartsHere b) := by
  have hone (path : String) : Rooted path → ¬StartsHere path := fun hroot h => h.1 hroot
  unfold head
  by_cases ha : Rooted a
  · rw [if_pos ha]
    by_cases hb : Rooted b
    · rw [if_pos hb]
      exact iff_of_true rfl ⟨iff_of_true ha hb, iff_of_false (hone a ha) (hone b hb)⟩
    · rw [if_neg hb]
      refine iff_of_false ?_ fun h => hb (h.1.mp ha)
      split <;> simp
  · rw [if_neg ha]
    by_cases hb : Rooted b
    · rw [if_pos hb]
      refine iff_of_false ?_ fun h => ha (h.1.mpr hb)
      split <;> simp
    · rw [if_neg hb]
      by_cases ha' : StartsHere a <;> by_cases hb' : StartsHere b <;> simp [ha, hb, ha', hb']

/-- Two paths have the same components if they are spellings of one another, and a dot is at the
start of both or of neither. -/
theorem same_iff {a b : String} :
    same a b = true ↔ Respelled a b ∧ (StartsHere a ↔ StartsHere b) := by
  rw [same, decide_eq_true_iff, components_eq, components_eq]
  constructor
  · intro h
    obtain ⟨hhead, hnames⟩ := head_append_inj h
    obtain ⟨hroot, hhere⟩ := head_eq_iff.mp hhead
    exact ⟨⟨hroot, hnames⟩, hhere⟩
  · rintro ⟨⟨hroot, hnames⟩, hhere⟩
    rw [head_eq_iff.mpr ⟨hroot, hhere⟩, hnames]

end Path

theorem checkInput_eq_ok {input : String} {limit : Nat} :
    checkInput input limit = .ok () ↔ input ≠ "" ∧ 8 ≤ limit := by
  unfold checkInput
  by_cases hinput : input.isEmpty = true
  · rw [if_pos hinput]
    simp [String.isEmpty_iff.mp hinput]
  · rw [if_neg hinput]
    have hne : input ≠ "" := fun h => hinput (String.isEmpty_iff.mpr h)
    by_cases hlimit : limit < 8
    · simp [hlimit]
    · simp [hlimit, hne, Nat.not_lt.mp hlimit]

/-- The settings of a decode are sound if there are paths, room for a header, and the output is not
a spelling of the input; but a dot at the start of just one of the two hides that it is. -/
theorem DecodeSettings.check_eq_ok {settings : DecodeSettings} :
    settings.check = .ok () ↔
      settings.input ≠ "" ∧ 8 ≤ settings.maxInputSize ∧ settings.output ≠ "" ∧
        (Path.Respelled settings.output settings.input →
          (Path.StartsHere settings.output ↔ ¬Path.StartsHere settings.input)) := by
  have hguard : Path.same settings.output settings.input = true ↔ _ := Path.same_iff
  have hcheck : settings.check = checkInput settings.input settings.maxInputSize >>= fun _ =>
      if settings.output.isEmpty then .error .noOutput
      else if Path.same settings.output settings.input then .error .sameFile else .ok () := by
    unfold DecodeSettings.check
    refine bind_congr fun _ => ?_
    split
    · rfl
    · split <;> rfl
  have hunit (p : Prop) : (∃ a : Unit,
      checkInput settings.input settings.maxInputSize = .ok a ∧ p) ↔
      checkInput settings.input settings.maxInputSize = .ok () ∧ p :=
    ⟨fun ⟨_, h⟩ => h, fun h => ⟨(), h⟩⟩
  rw [hcheck, except_bind_eq_ok, hunit, checkInput_eq_ok, and_assoc]
  refine and_congr_right fun _ => and_congr_right fun _ => ?_
  by_cases hout : settings.output.isEmpty = true
  · rw [if_pos hout]
    simp [String.isEmpty_iff.mp hout]
  · rw [if_neg hout]
    have hne : settings.output ≠ "" := fun h => hout (String.isEmpty_iff.mpr h)
    by_cases hsame : Path.same settings.output settings.input = true
    · rw [if_pos hsame]
      obtain ⟨hspelled, hhere⟩ := hguard.mp hsame
      refine iff_of_false (by simp) fun h => ?_
      exact iff_not_self (hhere.symm.trans (h.2 hspelled))
    · rw [if_neg hsame]
      simp only [true_iff]
      refine ⟨hne, fun hspelled => ?_⟩
      have hdiffers : ¬(Path.StartsHere settings.output ↔ Path.StartsHere settings.input) :=
        fun hhere => hsame (hguard.mpr ⟨hspelled, hhere⟩)
      exact (not_iff_comm.mp (not_iff.mp hdiffers)).symm

end TiffStrip
