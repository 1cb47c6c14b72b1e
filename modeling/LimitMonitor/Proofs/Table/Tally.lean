import LimitMonitor.Proofs.Table.Report

/-!
# What a tally counts

The check of a table puts every entry into one of three classes: it decodes to something,
it decodes to nothing because its slot is empty, or it fails. A tally counts the classes
in 16 bits (`tally_ofDecoded`), so for a table with more entries than 16 bits can number it
would say little. For every other table `Describes` says what a report tells of it, and
`describes_ofDecoded` that reports tell it.
-/

namespace LimitMonitor

/-! ## Classes of entries -/

namespace Entry

variable {α : Type}

/-- The entry decodes to something. -/
def isGood : Except Defect (Option α) → Bool
  | .ok (some _) => true
  | _ => false

/-- The entry fails its checks. -/
def isBad : Except Defect (Option α) → Bool
  | .error _ => true
  | .ok _ => false

/-- The entry decodes to nothing. -/
def isVacant : Except Defect (Option α) → Bool
  | .ok none => true
  | _ => false

/-- **Every entry is of one class.** -/
theorem countP_classes (decoded : List (Except Defect (Option α))) :
    decoded.countP isGood + decoded.countP isBad + decoded.countP isVacant = decoded.length := by
  induction decoded with
  | nil => rfl
  | cons entry rest ih =>
    simp only [List.countP_cons, List.length_cons]
    rcases entry with defect | _ | decodedEntry <;> simp [isGood, isBad, isVacant] <;> omega

theorem isBad_eq_not_isOk (entry : Except Defect (Option α)) : isBad entry = !entry.isOk := by
  cases entry <;> rfl

theorem isVacant_iff {entry : Except Defect (Option α)} :
    isVacant entry = true ↔ entry = .ok none := by
  rcases entry with defect | _ | decodedEntry <;> simp [isVacant]

end Entry

namespace TableReport

open Entry

variable {α δ : Type}

/-! ## Counting -/

/-- **A tally counts the entries of each class**, modulo what 16 bits can hold. -/
theorem tally_ofDecoded (decoded : List (Except Defect (Option α))) :
    (ofDecoded decoded).tally =
      { good := UInt16.ofNat (decoded.countP isGood)
        bad := UInt16.ofNat (decoded.countP isBad)
        unused := UInt16.ofNat (decoded.countP isVacant) } := by
  induction decoded using List.reverseRecOn with
  | nil => rfl
  | append_singleton decoded entry ih =>
    rw [ofDecoded_concat]
    rcases entry with defect | _ | decodedEntry <;>
      simp [add, ih, isGood, isBad, isVacant, List.countP_append, UInt16.ofNat_add]

variable {decode : δ → Except Defect (Option α)} {isUnused : δ → Bool} {table : List δ}

/-- The entry at a position fails with a defect, and no entry before it fails. -/
structure FirstFailure (decode : δ → Except Defect (Option α)) (table : List δ) (i : Nat)
    (defect : Defect) : Prop where
  fails : table[i]?.map decode = some (.error defect)
  earlier : ∀ j < i, ∀ d, table[j]? = some d → (decode d).isOk = true

/-- A table has one first failure at most. -/
theorem FirstFailure.unique {i j : Nat} {defect defect' : Defect}
    (h : FirstFailure decode table i defect) (h' : FirstFailure decode table j defect') :
    i = j ∧ defect = defect' := by
  -- the entry of the one would pass before the other
  have not_lt {i j : Nat} {defect defect' : Defect} (h : FirstFailure decode table i defect)
      (h' : FirstFailure decode table j defect') : ¬ i < j := by
    intro hlt
    obtain ⟨d, hd, hdecode⟩ := Option.map_eq_some_iff.mp h.fails
    have hok := h'.earlier i hlt d hd
    rw [hdecode] at hok
    cases hok
  obtain rfl : i = j := Nat.le_antisymm (Nat.not_lt.mp (not_lt h' h)) (Nat.not_lt.mp (not_lt h h'))
  exact ⟨rfl, Except.error.inj (Option.some.inj (h.fails.symm.trans h'.fails))⟩

/-- What a report tells of a table. -/
structure Describes (r : TableReport) (decode : δ → Except Defect (Option α))
    (isUnused : δ → Bool) (table : List δ) : Prop where
  /-- An entry is good if it decodes to something. -/
  good : r.tally.good.toNat = table.countP fun d => isGood (decode d)
  /-- An entry is bad if it fails its checks. -/
  bad : r.tally.bad.toNat = table.countP fun d => isBad (decode d)
  /-- An entry is unused if it says so. -/
  unused : r.tally.unused.toNat = table.countP isUnused
  /-- Every entry is counted once. -/
  total : r.tally.good.toNat + r.tally.bad.toNat + r.tally.unused.toNat = table.length
  /-- There is no defect exactly if no entry is bad. -/
  valid : r.firstDefect = none ↔ r.tally.bad = 0
  /-- The defect is that of the first failure. -/
  first : ∀ number defect, r.firstDefect = some (number, defect) ↔
    FirstFailure decode table number.toNat defect

/-- The defect of a report, by positions. -/
theorem firstFailure_of_firstDefect (hlength : table.length ≤ 65535) {number : UInt16}
    {defect : Defect} (h : (ofDecoded (table.map decode)).firstDefect = some (number, defect)) :
    FirstFailure decode table number.toNat defect := by
  have hspec := firstDefect_ofDecoded (table.map decode)
  rw [h] at hspec
  obtain ⟨before, after, hdecoded, hnumber, hbefore⟩ := hspec
  have hlengths := congrArg List.length hdecoded
  simp only [List.length_map, List.length_append, List.length_cons] at hlengths
  have hposition : number.toNat = before.length := by
    rw [hnumber]
    exact UInt16.toNat_ofNat_of_lt' (by simp only [UInt16.size]; omega)
  rw [hposition]
  refine ⟨?_, fun j hj d hd => ?_⟩
  · rw [← List.getElem?_map, hdecoded]
    simp
  · have hentry : (table.map decode)[j]? = some (decode d) := by rw [List.getElem?_map, hd]; rfl
    rw [hdecoded, List.getElem?_append_left hj] at hentry
    exact hbefore _ (List.mem_of_getElem? hentry)

/-- A report has no defect exactly if every entry passes. -/
theorem firstDefect_eq_none_iff :
    (ofDecoded (table.map decode)).firstDefect = none ↔ ∀ d ∈ table, (decode d).isOk = true := by
  have hspec := firstDefect_ofDecoded (table.map decode)
  cases hfirst : (ofDecoded (table.map decode)).firstDefect with
  | none =>
    rw [hfirst] at hspec
    exact ⟨fun _ d hd => hspec _ (List.mem_map_of_mem hd), fun _ => rfl⟩
  | some first =>
    rw [hfirst] at hspec
    obtain ⟨before, after, hdecoded, -⟩ := hspec
    have hmem : .error first.2 ∈ table.map decode := by
      rw [hdecoded]
      exact List.mem_append_right _ List.mem_cons_self
    obtain ⟨d, hd, hdecode⟩ := List.mem_map.mp hmem
    refine ⟨nofun, fun hok => ?_⟩
    have hentry := hok d hd
    rw [hdecode] at hentry
    cases hentry

/-- So a report has the first failure of its table as its defect, if there is one. -/
theorem FirstFailure.firstDefect_eq (hlength : table.length ≤ 65535) {number : UInt16}
    {defect : Defect} (h : FirstFailure decode table number.toNat defect) :
    (ofDecoded (table.map decode)).firstDefect = some (number, defect) := by
  cases hfirst : (ofDecoded (table.map decode)).firstDefect with
  | none =>
    obtain ⟨d, hd, hdecode⟩ := Option.map_eq_some_iff.mp h.fails
    have hok := firstDefect_eq_none_iff.mp hfirst d (List.mem_of_getElem? hd)
    rw [hdecode] at hok
    cases hok
  | some first =>
    obtain ⟨number', defect'⟩ := first
    obtain ⟨hnumber, rfl⟩ := h.unique (firstFailure_of_firstDefect hlength hfirst)
    rw [UInt16.toNat_inj.mp hnumber]

/-- **A report describes its table.** -/
theorem describes_ofDecoded (hunused : ∀ d, isUnused d = true ↔ decode d = .ok none)
    (hlength : table.length ≤ 65535) :
    (ofDecoded (table.map decode)).Describes decode isUnused table := by
  -- no class has more entries than 16 bits can count
  have hcount (kind : Except Defect (Option α) → Bool) :
      (UInt16.ofNat ((table.map decode).countP kind)).toNat =
        table.countP fun d => kind (decode d) := by
    have hle := List.countP_le_length (p := kind) (l := table.map decode)
    rw [List.length_map] at hle
    rw [UInt16.toNat_ofNat_of_lt' (by simp only [UInt16.size]; omega), List.countP_map]
    rfl
  have hvacant : (table.countP fun d => isVacant (decode d)) = table.countP isUnused :=
    List.countP_congr fun d _ => by rw [isVacant_iff, hunused]
  have htotal := countP_classes (table.map decode)
  simp only [List.countP_map, List.length_map, Function.comp_def] at htotal
  have hbad := hcount isBad
  refine
    { good := ?_, bad := ?_, unused := ?_, total := ?_, valid := ?_
      first := fun number defect => ⟨firstFailure_of_firstDefect hlength,
        FirstFailure.firstDefect_eq hlength⟩ }
  all_goals rw [tally_ofDecoded]
  · exact hcount isGood
  · exact hbad
  · exact (hcount isVacant).trans hvacant
  · simp only [hcount]
    exact htotal
  · rw [firstDefect_eq_none_iff, ← UInt16.toNat_inj, hbad, UInt16.toNat_zero, List.countP_eq_zero]
    simp only [isBad_eq_not_isOk, Bool.not_eq_true', Bool.not_eq_false]

end TableReport

end LimitMonitor
