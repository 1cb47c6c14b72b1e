import LimitMonitor.Proofs.Table.Slots
import LimitMonitor.Table.Report
import Mathlib.Data.List.Induction

/-!
# What a table report finds

A report goes through a table entry by entry and keeps the first defect that it comes
upon. `firstDefect_ofDecoded` says which one that is, and `verdict_ofTable` puts it in
terms of the slots of a table: the table is accepted if every definition passes its
checks, and otherwise refused for the first slot whose definition does not.
-/

namespace LimitMonitor

namespace TableReport

variable {α δ : Type} {n : Nat}

/-- The report after one more entry. -/
theorem ofDecoded_concat (decoded : List (Except Defect (Option α)))
    (entry : Except Defect (Option α)) :
    ofDecoded (decoded ++ [entry]) = (ofDecoded decoded).add decoded.length entry := by
  simp [ofDecoded, List.zipIdx_append]

/-- **The defect of a report is the first one.** -/
theorem firstDefect_ofDecoded (decoded : List (Except Defect (Option α))) :
    match (ofDecoded decoded).firstDefect with
    | none => ∀ entry ∈ decoded, entry.isOk = true
    | some (number, defect) => ∃ before after, decoded = before ++ .error defect :: after ∧
        number = UInt16.ofNat before.length ∧ ∀ entry ∈ before, entry.isOk = true := by
  induction decoded using List.reverseRecOn with
  | nil => exact fun entry hentry => absurd hentry List.not_mem_nil
  | append_singleton decoded entry ih =>
    rw [ofDecoded_concat]
    cases hfirst : (ofDecoded decoded).firstDefect with
    | none =>
      rw [hfirst] at ih
      rcases entry with defect | _ | decodedEntry
      · simp only [add, hfirst, Option.none_or]
        exact ⟨decoded, [], rfl, rfl, ih⟩
      all_goals
        simp only [add, hfirst]
        intro other hother
        rcases List.mem_append.mp hother with hold | hnew
        · exact ih other hold
        · rw [List.mem_singleton.mp hnew]
          rfl
    | some first =>
      rw [hfirst] at ih
      obtain ⟨before, after, hdecoded, hnumber, hbefore⟩ := ih
      have hkept : ((ofDecoded decoded).add decoded.length entry).firstDefect = some first := by
        rcases entry with defect | _ | decodedEntry <;> simp [add, hfirst]
      rw [hkept]
      exact ⟨before, after ++ [entry], by simp [hdecoded], hnumber, hbefore⟩

/-- What a report says of its table to operators: that it is accepted, with its tally, or which
entry fails first and why, with the tally. -/
def Announces (r : TableReport) (table : Table) (notification : Notification) : Prop :=
  (r.firstDefect = none → notification = .tableAccepted table r.tally) ∧
    ∀ entry defect, r.firstDefect = some (entry, defect) →
      notification = .tableRejected table entry defect r.tally

theorem announces_notification (r : TableReport) (table : Table) :
    r.Announces table (r.notification table) := by
  refine ⟨fun hnone => ?_, fun entry defect hfirst => ?_⟩
  · simp only [notification, hnone]
  · simp only [notification, hfirst]

/-- A slot holds the first definition of a table that fails its checks. -/
def FailsFirst (decode : δ → Except Defect (Option α)) (table : Vector δ n) (slot : Fin n)
    (defect : Defect) : Prop :=
  decode (table.get slot) = .error defect ∧
    ∀ earlier < slot, (decode (table.get earlier)).isOk = true

/-- **A table is refused for the first slot that fails**, and accepted if there is none. -/
theorem verdict_ofTable (decode : δ → Except Defect (Option α)) (definitions : Vector δ n)
    (table : Table) :
    match (ofDecoded (definitions.toList.map decode)).verdict table with
    | .ok _ => ∀ slot, (decode (definitions.get slot)).isOk = true
    | .error refusal => ∃ slot defect, FailsFirst decode definitions slot defect ∧
        refusal = .tableRejected table (slotNumber slot) defect := by
  have hspec := firstDefect_ofDecoded (definitions.toList.map decode)
  have hentry (slot : Fin n) :
      (definitions.toList.map decode)[slot.val]? = some (decode (definitions.get slot)) := by
    rw [List.getElem?_map, Slots.getElem?_toList, Option.map_some]
  unfold verdict
  cases hfirst : (ofDecoded (definitions.toList.map decode)).firstDefect with
  | none =>
    rw [hfirst] at hspec
    exact fun slot => hspec _ (List.mem_of_getElem? (hentry slot))
  | some first =>
    obtain ⟨number, defect⟩ := first
    rw [hfirst] at hspec
    obtain ⟨before, after, hdecoded, hnumber, hbefore⟩ := hspec
    have hlength := congrArg List.length hdecoded
    simp only [List.length_map, Vector.length_toList, List.length_append, List.length_cons]
      at hlength
    have hslot : before.length < n := by omega
    refine ⟨⟨before.length, hslot⟩, defect, ⟨?_, fun earlier hearlier => ?_⟩, by rw [hnumber]; rfl⟩
    · have hat := hentry ⟨before.length, hslot⟩
      rw [hdecoded] at hat
      simpa using hat.symm
    · have hat := hentry earlier
      rw [hdecoded, List.getElem?_append_left hearlier] at hat
      exact hbefore _ (List.mem_of_getElem? hat)

end TableReport

end LimitMonitor
