import LimitMonitor.Proofs.Engine.History
import LimitMonitor.Proofs.Engine.Reload
import LimitMonitor.Proofs.Engine.WatchChange
import LimitMonitor.Proofs.Watchpoint.Unwatched

/-!
# Unwatched data does not interfere

The engine reads no clock and decides nothing on a time: forgetting the times that its
watchpoint records keep (`Engine.timeless`) commutes with every operation
(`perform_timeless`). A message reaches the engine through its identifier and the fields that
loaded watchpoints find in it, unless a custom watchpoint hands it to the predicate
(`receive_congr`). So two runs whose messages differ in nothing else keep engines that are
the same up to those times, and say the same up to the lengths of messages (`unwatched_run`).

Main statement: `unwatched_data_ignored`.
-/

namespace LimitMonitor

namespace Operation

/-- No definition of a table that the operation uploads is that of a custom watchpoint. -/
def loadsNoCustom : Operation → Prop
  | load watchTable _ _ =>
    ∀ slot w, Watchpoint.decode (watchTable.get slot) = .ok (some w) → w.relation ≠ .custom
  | _ => True

/-- The operations are the same, or both bring a message with the same identifier in which
every loaded watchpoint that reads it finds the same field. -/
inductive LooksLike (e : Engine) : Operation → Operation → Prop
  | same (operation : Operation) : LooksLike e operation operation
  | receive {m m' : Message} (p p' : Predicate) : m'.id = m.id →
      (∀ slot w, e.watchpoints.get slot = some w → w.messageId = m.id → w.SameField m m') →
      LooksLike e (.receive m p) (.receive m' p')

end Operation

/-- The operation of another run looks like that of the call, to the engine that the call
meets. -/
def Call.LooksLike (call : Call) (operation : Operation) : Prop :=
  call.operation.LooksLike call.engine operation

namespace Engine

/-! ## Times -/

/-- The engine without the times that its watchpoint records keep. -/
def timeless (e : Engine) : Engine := { e with watchRecords := e.watchRecords.map (·.timeless) }

end Engine

/-- The step from and to an engine without times. -/
def Step.timeless {α : Type} (s : Step α) : Step α := ⟨s.engine.timeless, s.answer, s.trace⟩

namespace Engine

open Watchpoint

variable (e : Engine)

theorem verdicts_timeless : e.timeless.verdicts = e.verdicts := by
  funext slot
  rw [verdicts, timeless, Slots.get_map]
  rfl

theorem timeless_age : e.timeless.age = e.age.timeless := by
  have hrecords : (e.watchRecords.map (·.timeless)).map (·.age) =
      (e.watchRecords.map (·.age)).map (·.timeless) :=
    Slots.ext fun slot => by simp only [Slots.get_map, Record.timeless_age]
  rw [timeless, age, timeless, age, hrecords]

theorem timeless_load (watchTable : WatchTable) (actionTable : ActionTable) (t : Transport) :
    e.timeless.load watchTable actionTable t = (e.load watchTable actionTable t).timeless := by
  have hinstalled : e.timeless.install watchTable actionTable =
      (e.install watchTable actionTable).timeless := by
    rw [install, timeless, install, timeless, Vector.map_replicate, Record.timeless_initial]
  simp only [load]
  split
  · rfl
  · split
    · rfl
    · have hids (e : Engine) : e.timeless.messageIds = e.messageIds := rfl
      rw [hinstalled, hids]
      rfl

/-- **A request goes by the verdicts**, which keep no times. -/
theorem timeless_sample (q : Request) : e.timeless.sample q = (e.sample q).timeless := by
  have hslots (slots : List ActionSlot) : e.timeless.sampleSlots slots =
      ((e.sampleSlots slots).1.timeless, (e.sampleSlots slots).2) := by
    simp only [sampleSlots, verdicts_timeless]
    rfl
  have hmode : e.timeless.mode = e.mode := rfl
  unfold sample
  rw [hmode]
  cases e.mode with
  | disabled => rfl
  | active | passive =>
    cases q.scope with
    | nothing | outside => rfl
    | slots range =>
      simp only [hslots]
      cases q.aging with
      | false => rfl
      | true => simp only [if_true, Step.timeless, ← timeless_age]; rfl

theorem timeless_resetWatchpoints (target : UInt16) :
    e.timeless.resetWatchpoints target = (e.resetWatchpoints target).timeless := by
  have hall : (e.watchRecords.map (·.timeless)).map (fun _ => Record.initial) =
      (e.watchRecords.map fun _ => Record.initial).map (·.timeless) :=
    Slots.ext fun slot => by simp only [Slots.get_map, Record.timeless_initial]
  have hone (i : WatchSlot) : (e.watchRecords.map (·.timeless)).set i Record.initial i.isLt =
      (e.watchRecords.set i Record.initial i.isLt).map (·.timeless) :=
    Slots.ext fun slot => by
      simp only [Slots.get_map, Slots.get_set]
      split
      · rw [Record.timeless_initial]
      · rfl
  unfold resetWatchpoints
  split
  · simp only [Step.timeless, timeless, hall]
  · split
    · rfl
    · simp only [Step.timeless, timeless, hone]

/-- Commands to actionpoints keep to the actionpoint records. -/
theorem timeless_setState (target : UInt16) (state : Actionpoint.State) :
    e.timeless.setState target state = (e.setState target state).timeless := by
  have hrecords : e.timeless.actionRecords = e.actionRecords := rfl
  simp only [setState, hrecords]
  repeat' split
  all_goals rfl

theorem timeless_switchOff (target : UInt16) :
    e.timeless.switchOff target = (e.switchOff target).timeless := by
  have hrecords : e.timeless.actionRecords = e.actionRecords := rfl
  simp only [switchOff, hrecords]
  repeat' split
  all_goals rfl

theorem timeless_resetActionpoints (target : UInt16) :
    e.timeless.resetActionpoints target = (e.resetActionpoints target).timeless := by
  unfold resetActionpoints
  repeat' split
  all_goals rfl

theorem snapshot_timeless : e.timeless.snapshot = e.snapshot := by
  have hverdicts : (e.watchRecords.map (·.timeless)).toList.map (·.verdict) =
      e.watchRecords.toList.map (·.verdict) := by
    rw [Vector.toList_map, List.map_map]
    rfl
  simp only [snapshot, timeless, hverdicts]
  rfl

/-- **Forgetting the times commutes with every operation** but the receipt of a message. -/
theorem perform_timeless {operation : Operation} (hother : ∀ m p, operation ≠ .receive m p) :
    e.timeless.perform operation = (e.perform operation).timeless := by
  cases operation with
  | receive m p => exact absurd rfl (hother m p)
  | load watchTable actionTable t => simp only [perform, timeless_load]; rfl
  | sample q => simp only [perform, timeless_sample]; rfl
  | resetWatchpoints target => simp only [perform, timeless_resetWatchpoints]; rfl
  | age => simp only [perform, timeless_age]; rfl
  | housekeep => simp only [perform, timeless_age, snapshot_timeless]; rfl
  | snapshot => simp only [perform, snapshot_timeless]; rfl
  | setState target state => simp only [perform, timeless_setState]; rfl
  | switchOff target => simp only [perform, timeless_switchOff]; rfl
  | resetActionpoints target => simp only [perform, timeless_resetActionpoints]; rfl
  | setMode | resetCounters => rfl

/-! ## Messages -/

variable {e} {e' : Engine}

/-- Engines that are the same up to times have the same watchpoints. -/
theorem watchpoints_congr (htimes : e'.timeless = e.timeless) : e'.watchpoints = e.watchpoints := by
  have hsame := congrArg Engine.watchpoints htimes
  exact hsame

/-- No loaded watchpoint is custom. -/
def NoCustom (e : Engine) : Prop :=
  ∀ slot w, e.watchpoints.get slot = some w → w.relation ≠ .custom

theorem noCustom_initial : initial.NoCustom := fun slot w hw => by
  rw [initial, Slots.get_replicate] at hw
  cases hw

/-- What an accepted load leaves in a slot is what the definition there decodes to. -/
theorem decode_of_loaded {watchTable : WatchTable} {actionTable : ActionTable} {t : Transport}
    (accepted : (e.load watchTable actionTable t).answer.isOk = true) {slot : WatchSlot}
    {w : Watchpoint}
    (hw : (e.perform (.load watchTable actionTable t)).engine.watchpoints.get slot = some w) :
    Watchpoint.decode (watchTable.get slot) = .ok (some w) := by
  have hinstalled : (e.perform (.load watchTable actionTable t)).engine =
    e.installed watchTable actionTable := engine_load_of_isOk accepted
  rw [hinstalled, installed, install, Slots.get_map] at hw
  exact entryOf_eq_some.mp hw

/-- Tables without custom watchpoints load none. -/
theorem NoCustom.perform (h : e.NoCustom) {operation : Operation}
    (hloads : operation.loadsNoCustom) : (e.perform operation).engine.NoCustom := by
  intro slot w hw
  cases haccepts : e.acceptsLoad operation with
  | false =>
    rw [(perform_tables haccepts).1] at hw
    exact h slot w hw
  | true =>
    cases operation with
    | load watchTable actionTable t => exact hloads slot w (decode_of_loaded haccepts hw)
    | _ => cases haccepts

section Receive

variable {m m' : Message} (htimes : e'.timeless = e.timeless) (hid : m'.id = m.id)
include htimes hid

/-- The same watchpoints read the two messages. -/
theorem readers_congr : e'.readers m'.id = e.readers m.id := by
  have hwatchpoints : e'.watchpoints = e.watchpoints := watchpoints_congr htimes
  rw [readers, readers, hwatchpoints, hid]

variable (hplain : e.NoCustom)
  (hfields : ∀ slot w, e.watchpoints.get slot = some w → w.messageId = m.id → w.SameField m m')
include hplain hfields

/-- The two messages leave a slot the same record, up to times. -/
theorem timeless_scanRecord (p p' : Predicate) (slot : WatchSlot) :
    (e'.scanRecord m' p' slot).timeless = (e.scanRecord m p slot).timeless := by
  have hwatchpoints : e'.watchpoints = e.watchpoints := watchpoints_congr htimes
  have hrecord : (e'.watchRecords.get slot).timeless = (e.watchRecords.get slot).timeless := by
    rw [← Slots.get_map Record.timeless, ← Slots.get_map Record.timeless]
    exact congrArg (fun e : Engine => e.watchRecords.get slot) htimes
  rw [scanRecord_eq_apply, scanRecord_eq_apply, watchChange, watchChange, hwatchpoints, hid]
  cases hw : e.watchpoints.get slot with
  | none => exact hrecord
  | some w =>
    by_cases hreads : w.messageId = m.id
    · simp only [hreads, if_true, Change.apply, Record.timeless_fold, hrecord]
      rw [mapError_evaluate (hplain slot w hw) (hfields slot w hw hreads)]
    · simp only [hreads, if_false, Change.apply, hrecord]

/-- At a slot that reads them the two messages have the same said, up to lengths. -/
theorem lengthless_scanTrace (p p' : Predicate) {slot : WatchSlot}
    (hreader : slot ∈ e.readers m.id) :
    Trace.lengthless (e'.scanTrace m' p' slot) = Trace.lengthless (e.scanTrace m p slot) := by
  have hwatchpoints : e'.watchpoints = e.watchpoints := watchpoints_congr htimes
  obtain ⟨w, hw, hreads⟩ := mem_readers.mp hreader
  have hw' : e'.watchpoints.get slot = some w := hwatchpoints ▸ hw
  have hsame := mapError_evaluate (hplain slot w hw) (hfields slot w hw hreads) slot p p'
    (e.askedBefore m slot) (e'.askedBefore m' slot)
  simp only [scanTrace, question?, finding, hw, hw', Option.bind_some, Option.map_some,
    question?_of_plain (hplain slot w hw), Option.toList_none, List.flatMap_nil, List.nil_append]
  cases hresult : (w.evaluate slot m p (e.askedBefore m slot)).result with
  | ok reading =>
    cases hresult' : (w.evaluate slot m' p' (e'.askedBefore m' slot)).result with
    | ok reading' => rfl
    | error fault' =>
      rw [hresult, hresult'] at hsame
      cases hsame
  | error fault =>
    cases hresult' : (w.evaluate slot m' p' (e'.askedBefore m' slot)).result with
    | ok reading' =>
      rw [hresult, hresult'] at hsame
      cases hsame
    | error fault' =>
      rw [hresult, hresult'] at hsame
      exact lengthless_faultTrace slot hid (Except.error.inj hsame)

/-- **Two messages in which the loaded watchpoints find the same** are received alike: the
engine is the same after them, up to times, and what is said is the same, up to lengths. -/
theorem receive_congr (reachable : Reachable e) (reachable' : Reachable e') (p p' : Predicate) :
    (e'.receive m' p').engine.timeless = (e.receive m p).engine.timeless ∧
      Trace.lengthless (e'.receive m' p').trace = Trace.lengthless (e.receive m p).trace := by
  rw [reachable.receive_eq, reachable'.receive_eq, scan, scan, readers_congr htimes hid]
  by_cases hnone : e.readers m.id = []
  · rw [if_pos hnone, if_pos hnone, hid]
    exact ⟨htimes, rfl⟩
  · rw [if_neg hnone, if_neg hnone]
    refine ⟨?_, ?_⟩
    · have hrecords : (Vector.ofFn (e'.scanRecord m' p')).map Record.timeless =
          (Vector.ofFn (e.scanRecord m p)).map Record.timeless := by
        refine Slots.ext fun slot => ?_
        rw [Slots.get_map, Slots.get_map, Slots.get_ofFn, Slots.get_ofFn]
        exact timeless_scanRecord htimes hid hplain hfields p p' slot
      have hcounted := congrArg (fun e : Engine => { e with
        counters := { e.counters with messages := e.counters.messages.next }
        watchRecords := (Vector.ofFn (e'.scanRecord m' p')).map Record.timeless }) htimes
      refine hcounted.trans ?_
      rw [hrecords]
      rfl
    · rw [Trace.lengthless, Trace.lengthless, List.map_flatMap, List.map_flatMap]
      exact List.flatMap_congr fun slot hslot =>
        lengthless_scanTrace htimes hid hplain hfields p p' hslot

end Receive

/-! ## Calls and runs -/

/-- **A call of two such engines** leaves two such engines, and says the same up to lengths. -/
theorem perform_congr (reachable : Reachable e) (reachable' : Reachable e')
    (htimes : e'.timeless = e.timeless) (hplain : e.NoCustom) {operation operation' : Operation}
    (hlike : operation.LooksLike e operation') :
    (e'.perform operation').engine.timeless = (e.perform operation).engine.timeless ∧
      Trace.lengthless (e'.perform operation').trace =
        Trace.lengthless (e.perform operation).trace := by
  cases hlike with
  | receive p p' hid hfields =>
    exact receive_congr htimes hid hplain hfields reachable reachable' p p'
  | same =>
    by_cases hreceive : ∃ m p, operation = .receive m p
    · obtain ⟨m, p, rfl⟩ := hreceive
      exact receive_congr htimes rfl hplain (fun _ w _ _ => w.sameField_refl m) reachable
        reachable' p p
    · have hother : ∀ m p, operation ≠ .receive m p := fun m p heq => hreceive ⟨m, p, heq⟩
      have hsteps : (e'.perform operation).timeless = (e.perform operation).timeless := by
        rw [← perform_timeless e' hother, ← perform_timeless e hother, htimes]
      have htraces := congrArg Step.trace hsteps
      exact ⟨congrArg Step.engine hsteps, congrArg Trace.lengthless htraces⟩

/-- **Two runs that look alike** go through the same engines, up to times, and say the same, up
to lengths. -/
theorem run_congr (reachable : Reachable e) (reachable' : Reachable e')
    (htimes : e'.timeless = e.timeless) (hplain : e.NoCustom)
    {operations operations' : List Operation}
    (plain : ∀ operation ∈ operations, operation.loadsNoCustom)
    (alike : List.Forall₂ Call.LooksLike (e.calls operations) operations') :
    (e'.run operations').timeless = (e.run operations).timeless ∧
      (e'.calls operations').map (·.engine.timeless) =
        (e.calls operations).map (·.engine.timeless) ∧
      (e'.traces operations').map Trace.lengthless =
        (e.traces operations).map Trace.lengthless := by
  induction operations generalizing e e' operations' with
  | nil =>
    obtain rfl := List.forall₂_nil_left_iff.mp alike
    exact ⟨htimes, rfl, rfl⟩
  | cons operation rest ih =>
    obtain ⟨operation', rest', hlike, halike, rfl⟩ := List.forall₂_cons_left_iff.mp alike
    rw [List.forall_mem_cons] at plain
    obtain ⟨hengines, htraces⟩ := perform_congr reachable reachable' htimes hplain hlike
    obtain ⟨hrun, hcalls, hsaid⟩ := ih (reachable.perform operation)
      (reachable'.perform operation') hengines (hplain.perform plain.1) plain.2 halike
    refine ⟨hrun, ?_, ?_⟩
    · rw [calls, calls, List.map_cons, List.map_cons, hcalls]
      exact congrArg (· :: _) htimes
    · simp only [traces, List.map_cons, hsaid, htraces]

/-- **Unwatched data does not interfere.** Take two runs of the same calls over tables without
custom watchpoints, whose messages have the same identifiers but may differ in their times and
payloads, as long as every loaded watchpoint that reads a message finds its field past the end
in both payloads or inside both with the same bytes. At every call, and after the last one,
the two engines are the same but for the times that the watchpoint records keep of their
transitions. Call by call the two runs do the same to the world in the same order, the
responses and the notifications among it, but for the length of the message where the report
of a field past the end carries it. -/
theorem unwatched_data_ignored (operations operations' : List Operation)
    (plain : ∀ operation ∈ operations, operation.loadsNoCustom)
    (alike : List.Forall₂ Call.LooksLike (initial.calls operations) operations') :
    (initial.run operations').timeless = (initial.run operations).timeless ∧
    (initial.calls operations').map (·.engine.timeless) =
      (initial.calls operations).map (·.engine.timeless) ∧
    (initial.traces operations').map Trace.lengthless =
      (initial.traces operations).map Trace.lengthless := by
  have hsame : initial.timeless = initial.timeless := rfl
  exact run_congr reachable_initial reachable_initial hsame noCustom_initial plain alike

/-- A watchpoint on the second byte of a message. The first message is too short for it in both
runs, by one byte or by two, and the second one has the same second byte in both, among other
bytes and at another time. -/
theorem unwatched_data_ignored_one :
    let watchTable : WatchTable := Vector.ofFn fun slot =>
      if slot = 0 then .watching .uint8 .gt 0x820 1 else .unused
    let load : Operation := .load watchTable oneActionpoint .willing
    let operations : List Operation :=
      [load, .receive ⟨⟨0x820⟩, #[7], 100⟩ .unregistered,
        .receive ⟨⟨0x820⟩, #[0, 9], 200⟩ .unregistered, .sample .all]
    let operations' : List Operation :=
      [load, .receive ⟨⟨0x820⟩, #[], 150⟩ .unregistered,
        .receive ⟨⟨0x820⟩, #[255, 9, 1], 900⟩ .unregistered, .sample .all]
    (initial.load watchTable oneActionpoint .willing).answer.isOk = true ∧
    (∀ operation ∈ operations, operation.loadsNoCustom) ∧
    List.Forall₂ Call.LooksLike (initial.calls operations) operations' ∧
    (initial.run operations').timeless = (initial.run operations).timeless := by
  intro watchTable load operations operations'
  let w : Watchpoint := ⟨.uint8, .gt, ⟨0x820⟩, 1, 0xFFFFFFFF, .uint8 0, 0, 0⟩
  have hdecode (slot : WatchSlot) : Watchpoint.decode (watchTable.get slot) =
      .ok (if slot = 0 then some w else none) := by
    rw [Slots.get_ofFn]
    split <;> decide
  have haction (slot : ActionSlot) : (Actionpoint.decode (oneActionpoint.get slot)).isOk = true :=
    ((initial.isOk_load_iff).mp (isOk_load_one initial .willing)).2 slot
  have accepted : (initial.load watchTable oneActionpoint .willing).answer.isOk = true := by
    refine initial.isOk_load_iff.mpr ⟨fun slot => ?_, haction⟩
    rw [hdecode slot]
    rfl
  have only {slot : WatchSlot} {other : Watchpoint}
      (h : Watchpoint.decode (watchTable.get slot) = .ok (some other)) : other = w := by
    rw [hdecode slot] at h
    split at h
    · exact (Option.some.inj (Except.ok.inj h)).symm
    · cases h
  have plain : ∀ operation ∈ operations, operation.loadsNoCustom := by
    simp only [operations, List.forall_mem_cons]
    refine ⟨fun slot other hother => ?_, trivial, trivial, trivial, fun _ h => nomatch h⟩
    rw [only hother]
    decide
  have hloaded (slot : WatchSlot) (other : Watchpoint)
      (hother : (initial.perform load).engine.watchpoints.get slot = some other) : other = w :=
    only (decode_of_loaded accepted hother)
  have hfirst : w.SameField ⟨⟨0x820⟩, #[7], 100⟩ ⟨⟨0x820⟩, #[], 150⟩ := by
    intro width hwidth
    obtain rfl := Option.some.inj hwidth
    exact .inl ⟨by decide, by decide⟩
  have hsecond : w.SameField ⟨⟨0x820⟩, #[0, 9], 200⟩ ⟨⟨0x820⟩, #[255, 9, 1], 900⟩ := by
    intro width hwidth
    obtain rfl := Option.some.inj hwidth
    refine .inr ⟨by decide, by decide, fun i hlow hhigh => ?_⟩
    obtain rfl : i = 1 := Nat.le_antisymm (Nat.le_of_lt_succ hhigh) hlow
    rfl
  have hlike {e : Engine}
      (h : ∀ slot other, e.watchpoints.get slot = some other → other = w) {m m' : Message}
      (hsame : w.SameField m m') (hid : m'.id = m.id) :
      Operation.LooksLike e (.receive m .unregistered) (.receive m' .unregistered) :=
    .receive _ _ hid fun slot other hother _ => (h slot other hother) ▸ hsame
  have hcons {e : Engine} {operation operation' : Operation} {rest rest' : List Operation}
      (hone : operation.LooksLike e operation')
      (hrest : List.Forall₂ Call.LooksLike ((e.perform operation).engine.calls rest) rest') :
      List.Forall₂ Call.LooksLike (e.calls (operation :: rest)) (operation' :: rest') :=
    .cons hone hrest
  have alike : List.Forall₂ Call.LooksLike (initial.calls operations) operations' := by
    refine hcons (.same load) ?_
    -- what is left holds of every engine with that watchpoint
    generalize (initial.perform load).engine = e at hloaded
    have hkept : ∀ slot other, (e.perform (.receive ⟨⟨0x820⟩, #[7], 100⟩
        .unregistered)).engine.watchpoints.get slot = some other → other = w := by
      rw [(perform_tables rfl).1]
      exact hloaded
    exact hcons (hlike hloaded hfirst rfl)
      (hcons (hlike hkept hsecond rfl) (hcons (.same _) .nil))
  exact ⟨accepted, plain, alike, (unwatched_data_ignored operations operations' plain alike).1⟩

end Engine

end LimitMonitor
