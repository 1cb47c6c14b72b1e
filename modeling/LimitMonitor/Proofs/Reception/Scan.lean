import LimitMonitor.Proofs.Engine.Tables
import LimitMonitor.Proofs.Event.Projection

/-!
# Receiving as a scan of the table

`Engine.scan` says in closed form what a message does: every slot of the loaded
table that reads it is evaluated once, in table order, and its record and its
part of the trace depend on the table, the message and the predicate alone. The
answers of the predicate may depend on the questions that it was asked before;
which questions these are is again read off the table (`askedBefore`).

Main statement: `receive_eq_scan`. The chains of the dispatch index lead through
exactly the slots of the scan, and the loop over them (`foldl_visit`) asks, notes
and reports what the closed form says.
-/

namespace LimitMonitor

namespace Watchpoint

/-- The field of a watchpoint lies wholly inside a message. -/
def fits (w : Watchpoint) (m : Message) : Bool :=
  w.format.width?.any fun width => w.offset.toNat + width.toNat ≤ m.length

/-- A field is read exactly if it lies inside the message. -/
theorem isOk_field (w : Watchpoint) (m : Message) : (w.field m).isOk = w.fits m := by
  unfold field Format.read fits
  cases w.format.width? with
  | none => rfl
  | some width =>
    by_cases h : w.offset.toNat + width.toNat ≤ m.length
    · have h' : w.offset.toNat + width.toNat ≤ m.payload.size := h
      simp [Field.bytesAt?, h, h', Except.isOk, Except.toBool]
    · have h' : ¬ w.offset.toNat + width.toNat ≤ m.payload.size := h
      simp [Field.bytesAt?, h, h', Except.isOk, Except.toBool]

/-- The question that the watchpoint in a slot puts to the predicate about a
message, if it is custom and can read its field. -/
def question? (w : Watchpoint) (slot : WatchSlot) (m : Message) : Option Consultation :=
  match w.relation, w.field m with
  | .custom, .ok raw => some ⟨slot, raw &&& w.mask, m, w.argument⟩
  | _, _ => none

/-- A question depends on no answer. -/
theorem question_evaluate (w : Watchpoint) (slot : WatchSlot) (m : Message) (p : Predicate)
    (asked : List Consultation) : (w.evaluate slot m p asked).question = w.question? slot m := by
  unfold evaluate question?
  cases hfield : w.field m with
  | error fault => cases w.relation <;> rfl
  | ok raw => cases w.relation <;> rfl

theorem isSome_question? (w : Watchpoint) (slot : WatchSlot) (m : Message) :
    (w.question? slot m).isSome = (w.relation = .custom && w.fits m) := by
  rw [← isOk_field]
  unfold question?
  cases w.field m with
  | error fault => cases w.relation <;> rfl
  | ok raw => cases w.relation <;> rfl

theorem slot_of_question? {w : Watchpoint} {slot : WatchSlot} {m : Message}
    {question : Consultation} (h : w.question? slot m = some question) : question.slot = slot := by
  unfold question? at h
  split at h
  · rw [← Option.some.inj h]
  · cases h

/-- What operators are told of a watchpoint that cannot judge its field. -/
def report (slot : WatchSlot) (m : Message) : Field.Fault → Notification
  | .undefinedFormat code => .undefinedFormat (slotNumber slot) code
  | .undefinedRelation code => .undefinedRelation (slotNumber slot) code
  | .pastEnd offset width length => .fieldPastEnd (slotNumber slot) m.id offset width length
  | .notANumber bits => .notANumber (slotNumber slot) bits

theorem notifications_faultTrace (slot : WatchSlot) (m : Message) (fault : Field.Fault) :
    Trace.notifications (faultTrace slot m fault) = [report slot m fault] := by
  cases fault <;> rfl

theorem filter_asks_faultTrace (slot : WatchSlot) (m : Message) (fault : Field.Fault) :
    (faultTrace slot m fault).filter Event.asksPredicate = [] := by
  cases fault <;> rfl

end Watchpoint

namespace Predicate

theorem notifications_trace (p : Predicate) (question : Consultation) :
    Trace.notifications (p.trace question) = [] := by
  cases p <;> rfl

theorem filter_asks_trace (p : Predicate) (question : Consultation) :
    (p.trace question).filter Event.asksPredicate = p.trace question := by
  cases p <;> rfl

end Predicate

namespace Engine

/-! ## The scan -/

/-- The question of a slot about a message. -/
def question? (e : Engine) (m : Message) (slot : WatchSlot) : Option Consultation :=
  (e.watchpoints.get slot).bind fun w => w.question? slot m

/-- The questions about a message that are put before the turn of a slot. -/
def askedBefore (e : Engine) (m : Message) (slot : WatchSlot) : List Consultation :=
  ((e.readers m.id).filter fun other => other < slot).filterMap (e.question? m)

/-- What the evaluation of a slot gives when its turn comes. -/
def finding (e : Engine) (m : Message) (p : Predicate) (slot : WatchSlot) :
    Option (Except Field.Fault Watchpoint.Reading) :=
  (e.watchpoints.get slot).map fun w => (w.evaluate slot m p (e.askedBefore m slot)).result

/-- The record that a message leaves in a slot. A slot that does not read the
message keeps its own. -/
def scanRecord (e : Engine) (m : Message) (p : Predicate) (slot : WatchSlot) :
    Watchpoint.Record :=
  match e.watchpoints.get slot with
  | none => e.watchRecords.get slot
  | some w =>
    if w.messageId = m.id then
      match (w.evaluate slot m p (e.askedBefore m slot)).result with
      | .ok reading =>
        (e.watchRecords.get slot).note reading.verdict reading.raw m.timestamp w.staleAfter
      | .error (.pastEnd _ _ _) => (e.watchRecords.get slot).fault
      | .error _ => (e.watchRecords.get slot).note .error 0 m.timestamp 0
    else e.watchRecords.get slot

/-- What a message does to the world at a slot that reads it. -/
def scanTrace (e : Engine) (m : Message) (p : Predicate) (slot : WatchSlot) : Trace :=
  (e.question? m slot).toList.flatMap p.trace ++
    match e.finding m p slot with
    | some (.error fault) => Watchpoint.faultTrace slot m fault
    | _ => []

/-- What operators are told of a slot that reads a message. -/
def scanReport (e : Engine) (m : Message) (p : Predicate) (slot : WatchSlot) :
    Option Notification :=
  match e.finding m p slot with
  | some (.error fault) => some (Watchpoint.report slot m fault)
  | _ => none

/-- **The plain scan of the loaded table.** -/
def scan (e : Engine) (m : Message) (p : Predicate) : Step Unit :=
  if e.readers m.id = [] then
    ⟨e, (), [.log (.unreferencedMessage m.id), .notify (.unreferencedMessage m.id)]⟩
  else
    { engine :=
        { e with
          counters := { e.counters with messages := e.counters.messages.next }
          watchRecords := Vector.ofFn (e.scanRecord m p) }
      answer := ()
      trace := (e.readers m.id).flatMap (e.scanTrace m p) }

/-! ## The loop -/

variable {e : Engine} {m : Message} {p : Predicate}

/-- The questions put before a slot are those of the readers before it. -/
theorem askedBefore_eq {before rest : List WatchSlot} {slot : WatchSlot}
    (hsplit : e.readers m.id = before ++ slot :: rest) :
    e.askedBefore m slot = before.filterMap (e.question? m) := by
  have sorted := e.readers_ascending m.id
  rw [hsplit, List.pairwise_append, List.pairwise_cons] at sorted
  obtain ⟨-, ⟨after, -⟩, across⟩ := sorted
  have hbefore : before.filter (fun other => other < slot) = before :=
    List.filter_eq_self.mpr fun other h => by simpa using across other h slot List.mem_cons_self
  have hafter : (slot :: rest).filter (fun other => other < slot) = [] := by
    refine List.filter_eq_nil_iff.mpr fun other h => ?_
    rcases List.mem_cons.mp h with rfl | hrest
    · simp
    · simpa using Fin.le_of_lt (after other hrest)
  rw [askedBefore, hsplit, List.filter_append, hbefore, hafter, List.append_nil]

/-- **One turn of the loop** does to a slot that reads the message what the scan
says, if the questions so far and the record of the slot are those of the scan. -/
theorem visit_eq {w : Watchpoint} {slot : WatchSlot} {s : Reception}
    (hw : e.watchpoints.get slot = some w) (hreads : w.messageId = m.id)
    (hasked : s.asked = e.askedBefore m slot) (hkept : s.records.get slot = e.watchRecords.get slot) :
    Reception.visit e.watchpoints m p s slot =
      { records := s.records.set slot (e.scanRecord m p slot) slot.isLt
        asked := s.asked ++ (e.question? m slot).toList
        trace := s.trace ++ e.scanTrace m p slot } := by
  have hquestion : e.question? m slot = (w.evaluate slot m p s.asked).question := by
    rw [question?, hw, Option.bind_some, Watchpoint.question_evaluate]
  have hrecord : e.scanRecord m p slot =
      (s.records.get slot).fold (w.evaluate slot m p s.asked).result m.timestamp w.staleAfter := by
    rw [scanRecord, hw, hkept, hasked]
    simp only [hreads, if_true]
    cases (w.evaluate slot m p (e.askedBefore m slot)).result with
    | ok reading => rfl
    | error fault => cases fault <;> rfl
  have htrace : e.scanTrace m p slot = (w.evaluate slot m p s.asked).trace slot m p := by
    rw [scanTrace, hquestion, finding, hw, Option.map_some, ← hasked, Watchpoint.Evaluation.trace]
    cases (w.evaluate slot m p s.asked).result <;> rfl
  rw [hquestion, hrecord, htrace]
  simp only [Reception.visit, hw]

/-- **The loop over the remaining readers**: each of them gets the record of the
scan, and the trace grows by theirs. -/
theorem foldl_visit (before slots : List WatchSlot) (hsplit : e.readers m.id = before ++ slots)
    (s : Reception) (hasked : s.asked = before.filterMap (e.question? m))
    (hkept : ∀ slot ∈ slots, s.records.get slot = e.watchRecords.get slot) :
    (∀ slot : WatchSlot, (slots.foldl (Reception.visit e.watchpoints m p) s).records.get slot =
        if slot ∈ slots then e.scanRecord m p slot else s.records.get slot) ∧
      (slots.foldl (Reception.visit e.watchpoints m p) s).trace =
        s.trace ++ slots.flatMap (e.scanTrace m p) := by
  induction slots generalizing before s with
  | nil => simp
  | cons slot rest ih =>
    obtain ⟨w, hw, hreads⟩ := mem_readers.mp (show slot ∈ e.readers m.id by simp [hsplit])
    have sorted := e.readers_ascending m.id
    rw [hsplit, List.pairwise_append, List.pairwise_cons] at sorted
    have fresh : slot ∉ rest := fun h => Fin.lt_irrefl slot (sorted.2.1.1 slot h)
    have turn := visit_eq (p := p) hw hreads (hasked.trans (askedBefore_eq hsplit).symm)
      (hkept slot List.mem_cons_self)
    have other {i : WatchSlot} (hi : i ≠ slot) :
        (s.records.set slot (e.scanRecord m p slot) slot.isLt).get i = s.records.get i :=
      Slots.get_set_of_ne _ _ hi
    rw [List.foldl_cons, turn]
    -- the slot joins those that were visited, with its question among those asked
    obtain ⟨hrecords, htrace⟩ := ih (before ++ [slot]) (by simpa using hsplit)
      { records := s.records.set slot (e.scanRecord m p slot) slot.isLt
        asked := s.asked ++ (e.question? m slot).toList
        trace := s.trace ++ e.scanTrace m p slot }
      (by cases hq : e.question? m slot <;> simp [hasked, hq])
      fun i hi => (other fun h => fresh (h ▸ hi)).trans (hkept i (List.mem_cons_of_mem _ hi))
    refine ⟨fun i => ?_, by rw [htrace, List.flatMap_cons, List.append_assoc]⟩
    rw [hrecords i]
    by_cases hrest : i ∈ rest
    · simp [hrest]
    · by_cases hi : i = slot
      · subst hi
        simp [hrest]
      · simp [hrest, hi, other hi]

/-! ## What the scan leaves -/

theorem scanRecord_of_not_mem {slot : WatchSlot} (h : slot ∉ e.readers m.id) :
    e.scanRecord m p slot = e.watchRecords.get slot := by
  unfold scanRecord
  cases hw : e.watchpoints.get slot with
  | none => rfl
  | some w =>
    have hreads : w.messageId ≠ m.id := fun hid => h (mem_readers.mpr ⟨w, hw, hid⟩)
    simp [hreads]

theorem notifications_scanTrace (slot : WatchSlot) :
    Trace.notifications (e.scanTrace m p slot) = (e.scanReport m p slot).toList := by
  have hquestion : Trace.notifications ((e.question? m slot).toList.flatMap p.trace) = [] := by
    cases e.question? m slot with
    | none => rfl
    | some question => simpa using p.notifications_trace question
  rw [scanTrace, Trace.notifications_append, hquestion, List.nil_append, scanReport]
  rcases e.finding m p slot with _ | fault | reading
  · rfl
  · exact Watchpoint.notifications_faultTrace slot m fault
  · rfl

theorem filter_asks_scanTrace (slot : WatchSlot) :
    (e.scanTrace m p slot).filter Event.asksPredicate =
      (e.question? m slot).toList.flatMap p.trace := by
  have hfault : List.filter Event.asksPredicate (match e.finding m p slot with
      | some (.error fault) => Watchpoint.faultTrace slot m fault
      | _ => []) = [] := by
    rcases e.finding m p slot with _ | fault | reading
    · rfl
    · exact Watchpoint.filter_asks_faultTrace slot m fault
    · rfl
  rw [scanTrace, List.filter_append, hfault, List.append_nil]
  cases e.question? m slot with
  | none => rfl
  | some question => simpa using p.filter_asks_trace question

/-- **Receiving is the plain scan**, in every reachable state. -/
theorem Reachable.receive_eq (h : Reachable e) (m : Message) (p : Predicate) :
    e.receive m p = e.scan m p := by
  unfold receive scan
  rw [h.lookup_eq_readers]
  cases hreaders : e.readers m.id with
  | nil => rfl
  | cons slot rest =>
    obtain ⟨hrecords, htrace⟩ := foldl_visit (p := p) [] (slot :: rest) hreaders
      ⟨e.watchRecords, [], []⟩ rfl fun _ _ => rfl
    have hvector : ((slot :: rest).foldl (Reception.visit e.watchpoints m p)
        ⟨e.watchRecords, [], []⟩).records = Vector.ofFn (e.scanRecord m p) := by
      refine Slots.ext fun slot' => ?_
      rw [hrecords slot', Slots.get_ofFn, ← hreaders]
      by_cases hmem : slot' ∈ e.readers m.id
      · rw [if_pos hmem]
      · rw [if_neg hmem, scanRecord_of_not_mem hmem]
    simp only [hvector, htrace, List.nil_append, reduceCtorEq, if_false]

/-- The scan reports each reader that cannot judge its field, or the message if it
has no reader. -/
theorem notifications_scan (e : Engine) (m : Message) (p : Predicate) :
    Trace.notifications (e.scan m p).trace =
      if e.readers m.id = [] then [.unreferencedMessage m.id]
      else (e.readers m.id).filterMap (e.scanReport m p) := by
  unfold scan
  split
  · rfl
  · rw [Trace.notifications, List.filterMap_flatMap, List.filterMap_eq_flatMap_toList]
    exact List.flatMap_congr fun slot _ => notifications_scanTrace slot

/-- The scan asks the predicate the questions of the readers, in table order. -/
theorem filter_asks_scan (e : Engine) (m : Message) (p : Predicate) :
    (e.scan m p).trace.filter Event.asksPredicate =
      ((e.readers m.id).filterMap (e.question? m)).flatMap p.trace := by
  unfold scan
  split
  · next hnone =>
    rw [hnone]
    rfl
  · rw [List.filter_flatMap, List.filterMap_eq_flatMap_toList, List.flatMap_assoc]
    exact List.flatMap_congr fun slot _ => filter_asks_scanTrace slot

/-- The readers that ask the predicate are the custom ones whose field lies inside
the message. -/
theorem slots_asking (e : Engine) (m : Message) (slots : List WatchSlot) :
    (slots.filterMap (e.question? m)).map (·.slot) =
      slots.filter fun slot =>
        (e.watchpoints.get slot).any fun w => w.relation = .custom && w.fits m := by
  induction slots with
  | nil => rfl
  | cons slot rest ih =>
    have hasks : (e.question? m slot).isSome =
        (e.watchpoints.get slot).any fun w => w.relation = .custom && w.fits m := by
      unfold question?
      cases e.watchpoints.get slot with
      | none => rfl
      | some w => exact w.isSome_question? slot m
    rw [List.filter_cons, ← hasks]
    cases hq : e.question? m slot with
    | none => simpa [hq] using ih
    | some question =>
      have hslot : question.slot = slot := by
        obtain ⟨w, -, hw⟩ := Option.bind_eq_some_iff.mp hq
        exact Watchpoint.slot_of_question? hw
      simp [hq, hslot, ih]

/-- **A message goes through the dispatch index as through the table.** After every
run, receiving a message is the plain scan of the loaded table, whatever the
predicate remembers between its questions. The scan visits in table order the
slots whose watchpoint reads the message. It reports one notification for each
of them that cannot judge its field, or the message itself if there is no such
slot, and it asks the predicate once for each custom one whose field lies inside
the message, or writes to the log that none is registered. -/
theorem receive_eq_scan (operations : List Operation) (m : Message) (p : Predicate) :
    let e := initial.run operations
    let trace := (e.receive m p).trace
    let questions := (e.readers m.id).filterMap (e.question? m)
    e.receive m p = e.scan m p ∧
    ((e.readers m.id).Pairwise (· < ·) ∧ ∀ slot : WatchSlot, slot ∈ e.readers m.id ↔
      ∃ w, e.watchpoints.get slot = some w ∧ w.messageId = m.id) ∧
    trace.notifications =
      (if e.readers m.id = [] then [.unreferencedMessage m.id]
      else (e.readers m.id).filterMap (e.scanReport m p)) ∧
    (∀ answer, p = .registered answer →
      trace.filter Event.asksPredicate = questions.map Event.consult) ∧
    (p = .unregistered → trace.filter Event.asksPredicate =
      questions.map fun question => .log (.noPredicate question.slot)) ∧
    questions.map (·.slot) = (e.readers m.id).filter fun slot =>
      (e.watchpoints.get slot).any fun w => w.relation = .custom && w.fits m := by
  intro e trace questions
  have scanned : e.receive m p = e.scan m p := Reachable.receive_eq ⟨operations, rfl⟩ m p
  have asked : trace.filter Event.asksPredicate = questions.flatMap p.trace := by
    rw [← filter_asks_scan e m p, ← scanned]
  refine ⟨scanned, ⟨readers_ascending e m.id, fun slot => mem_readers⟩, ?_, fun answer hp => ?_,
    fun hp => ?_, slots_asking e m _⟩
  · rw [← notifications_scan e m p, ← scanned]
  · rw [asked, hp, List.map_eq_flatMap]
    rfl
  · rw [asked, hp, List.map_eq_flatMap]
    rfl

end Engine

end LimitMonitor
