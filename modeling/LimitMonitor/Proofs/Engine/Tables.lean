import LimitMonitor.Engine.Operation
import LimitMonitor.Proofs.Dispatch.Rebuild
import Mathlib.Data.List.Sort

/-!
# The tables in force

Only an accepted load changes the definition tables and the dispatch index
(`perform_tables`), and it leaves the index of the table that it installs
(`engine_load`). So an invariant of the tables has two cases to keep it, an
installation and an operation that leaves them alone
(`Reachable.induction_installed`). In every reachable state the index is that of the
loaded table (`Reachable.index_eq`), and a look-up in it is a scan of that table
(`Reachable.lookup_eq_readers`).
-/

namespace LimitMonitor

namespace Engine

/-- Only a definition that decodes fills a slot. -/
theorem entryOf_eq_some {α : Type} {decoded : Except Defect (Option α)} {entry : α} :
    entryOf decoded = some entry ↔ decoded = .ok (some entry) := by
  cases decoded with
  | ok slot => exact ⟨fun h => congrArg Except.ok h, fun h => Except.ok.inj h⟩
  | error defect => exact ⟨nofun, nofun⟩

/-- The engine with two tables in force and the index that belongs to them. -/
def installed (e : Engine) (watchTable : WatchTable) (actionTable : ActionTable) : Engine :=
  { e.install watchTable actionTable with
    index := DispatchIndex.ofTable (e.install watchTable actionTable).messageIds }

/-- The operation is a load, and it is accepted. -/
def acceptsLoad (e : Engine) : Operation → Bool
  | .load watchTable actionTable transport => (e.load watchTable actionTable transport).answer.isOk
  | _ => false

/-- **A load installs both tables or changes nothing.** -/
theorem engine_load (e : Engine) (watchTable : WatchTable) (actionTable : ActionTable)
    (t : Transport) :
    (e.load watchTable actionTable t).engine =
      if (e.load watchTable actionTable t).answer.isOk then e.installed watchTable actionTable
      else e := by
  cases hwatch : (TableReport.ofWatchpoints watchTable.toList).verdict .watchpoints with
  | error refusal => simp [load, hwatch, Except.isOk, Except.toBool]
  | ok watchTally =>
    cases haction : (TableReport.ofActionpoints actionTable.toList).verdict .actionpoints with
    | error refusal => simp [load, hwatch, haction, Except.isOk, Except.toBool]
    | ok actionTally =>
      simp [load, hwatch, haction, Except.isOk, Except.toBool, installed, DispatchIndex.rebuild]

/-- **Only an accepted load changes the tables or the index.** -/
theorem perform_tables {e : Engine} {operation : Operation}
    (h : e.acceptsLoad operation = false) :
    (e.perform operation).engine.watchpoints = e.watchpoints ∧
      (e.perform operation).engine.actionpoints = e.actionpoints ∧
      (e.perform operation).engine.index = e.index := by
  cases operation with
  | load watchTable actionTable t =>
    have hengine := engine_load e watchTable actionTable t
    simp only [acceptsLoad] at h
    rw [h] at hengine
    simp [perform, Step.reply, hengine]
  | receive m p =>
    simp only [perform, Step.reply, receive]
    split <;> exact ⟨rfl, rfl, rfl⟩
  | sample q =>
    simp only [perform, Step.reply, sample]
    split
    · exact ⟨rfl, rfl, rfl⟩
    all_goals
      split
      · exact ⟨rfl, rfl, rfl⟩
      · exact ⟨rfl, rfl, rfl⟩
      · split <;> exact ⟨rfl, rfl, rfl⟩
  | age => exact ⟨rfl, rfl, rfl⟩
  | setMode mode => exact ⟨rfl, rfl, rfl⟩
  | setState target state =>
    simp only [perform, Step.reply, setState]
    split
    · exact ⟨rfl, rfl, rfl⟩
    · split
      · exact ⟨rfl, rfl, rfl⟩
      · split
        · exact ⟨rfl, rfl, rfl⟩
        · split <;> exact ⟨rfl, rfl, rfl⟩
  | switchOff target =>
    simp only [perform, Step.reply, switchOff]
    split
    · exact ⟨rfl, rfl, rfl⟩
    · split <;> exact ⟨rfl, rfl, rfl⟩
  | resetActionpoints target =>
    simp only [perform, Step.reply, resetActionpoints]
    split
    · exact ⟨rfl, rfl, rfl⟩
    · split <;> exact ⟨rfl, rfl, rfl⟩
  | resetWatchpoints target =>
    simp only [perform, Step.reply, resetWatchpoints]
    split
    · exact ⟨rfl, rfl, rfl⟩
    · split <;> exact ⟨rfl, rfl, rfl⟩
  | resetCounters => exact ⟨rfl, rfl, rfl⟩
  | housekeep => exact ⟨rfl, rfl, rfl⟩
  | snapshot => exact ⟨rfl, rfl, rfl⟩

/-- An accepted load leaves the engine with its tables installed. -/
theorem perform_of_acceptsLoad {e : Engine} {operation : Operation}
    (h : e.acceptsLoad operation = true) :
    ∃ watchTable actionTable, (e.perform operation).engine = e.installed watchTable actionTable := by
  cases operation with
  | load watchTable actionTable t =>
    refine ⟨watchTable, actionTable, ?_⟩
    have hengine := engine_load e watchTable actionTable t
    simp only [acceptsLoad] at h
    rw [h] at hengine
    exact hengine
  | _ => cases h

/-- **What the installation of any tables establishes, and every operation that installs
none keeps, holds of every reachable state**, if it holds of the initial engine. -/
theorem Reachable.induction_installed {P : Engine → Prop} (start : P initial)
    (install : ∀ (e : Engine) watchTable actionTable, P (e.installed watchTable actionTable))
    (keep : ∀ e operation, Reachable e → e.acceptsLoad operation = false → P e →
      P (e.perform operation).engine)
    {e : Engine} (h : Reachable e) : P e := by
  refine h.induction start fun e operation reachable holds => ?_
  cases haccepts : e.acceptsLoad operation with
  | true =>
    obtain ⟨watchTable, actionTable, hengine⟩ := perform_of_acceptsLoad haccepts
    rw [hengine]
    exact install e watchTable actionTable
  | false => exact keep e operation reachable haccepts holds

/-! ## The index -/

/-- The index of a table without used slots is empty. -/
theorem index_initial : initial.index = DispatchIndex.ofTable initial.messageIds := by
  rfl

/-- **The index is that of the loaded table**, after every run. -/
theorem Reachable.index_eq {e : Engine} (h : Reachable e) :
    e.index = DispatchIndex.ofTable e.messageIds := by
  refine h.induction_installed (P := fun e => e.index = DispatchIndex.ofTable e.messageIds)
    index_initial (fun _ _ _ => rfl) fun e operation _ haccepts ih => ?_
  obtain ⟨hwatch, -, hindex⟩ := perform_tables haccepts
  rw [hindex, ih, messageIds, messageIds, hwatch]

/-- The slots whose watchpoint reads a message, in table order. -/
def readers (e : Engine) (id : MessageId) : List WatchSlot :=
  WatchSlot.all.filter fun slot => (e.watchpoints.get slot).any fun w => w.messageId = id

theorem mem_readers {e : Engine} {id : MessageId} {slot : WatchSlot} :
    slot ∈ e.readers id ↔ ∃ w, e.watchpoints.get slot = some w ∧ w.messageId = id := by
  simp [readers, WatchSlot.all, Option.any_eq_true]

theorem readers_ascending (e : Engine) (id : MessageId) : (e.readers id).Pairwise (· < ·) :=
  (List.pairwise_lt_finRange watchCapacity).filter _

/-- **A look-up is a scan of the table**, after every run. -/
theorem Reachable.lookup_eq_readers {e : Engine} (h : Reachable e) (id : MessageId) :
    e.index.lookup id = e.readers id := by
  rw [h.index_eq]
  refine (DispatchIndex.lookup_ofTable_ascending e.messageIds id).eq_of_mem_iff
    (readers_ascending e id) fun slot => ?_
  rw [DispatchIndex.mem_lookup_ofTable, mem_readers, messageIds, List.getElem?_map,
    Slots.getElem?_toList]
  simp

end Engine

end LimitMonitor
