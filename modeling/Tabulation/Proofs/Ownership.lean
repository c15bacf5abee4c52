/-
Who handles a message.

A message comes to one end, whichever manager it is given to, and a unit has one store.  So
all messages for the storage of a chunk and a runner are handled by the same store.
-/

import Tabulation.Proofs.Schedule

namespace Tabulation

variable {S F M : Type}

/-! ### A unit has one store -/

/-- The units that came into being, each as its chunk and its runner. -/
def EngineState.unitNames (state : EngineState S F M) : List (String × String) :=
  state.units.map Prod.fst

theorem EngineState.hasUnit_iff (state : EngineState S F M) (chunk runner : String) :
    state.hasUnit chunk runner = true ↔ (chunk, runner) ∈ state.unitNames := by
  unfold hasUnit store? unitNames
  induction state.units with
  | nil => simp
  | cons unit rest inductionHypothesis =>
      obtain ⟨name, store⟩ := unit
      by_cases same : (chunk, runner) = name
      · subst same
        simp
      · rw [List.lookup_cons, beq_eq_false_iff_ne.mpr same, List.map_cons, List.mem_cons]
        exact inductionHypothesis.trans (or_iff_right same).symm

theorem EngineState.unitNames_putStore (state : EngineState S F M) (chunk runner : String)
    (store : Store S F) : (state.putStore chunk runner store).unitNames = state.unitNames := by
  unfold unitNames putStore
  rw [List.map_map]
  apply List.map_congr_left
  intro unit _
  change (if unit.1 == (chunk, runner) then (unit.1, store) else unit).1 = unit.1
  split <;> rfl

theorem EngineState.unitNames_announce (state : EngineState S F M) (chunk : String) :
    (state.announce chunk).unitNames = state.unitNames := by
  obtain ⟨chunks, same⟩ := state.announce_eq chunk
  rw [same]
  rfl

namespace Engine

variable (engine : Engine S F M) (state : EngineState S F M)

/-- A unit comes into being once, and after the others. -/
theorem unitNames_openUnit (chunk runner : String) :
    (engine.openUnit state chunk runner).unitNames =
      if state.hasUnit chunk runner = true then state.unitNames
      else state.unitNames ++ [(chunk, runner)] := by
  by_cases present : state.hasUnit chunk runner = true
  · rw [engine.openUnit_of_hasUnit present, if_pos present]
  · obtain ⟨log, opened⟩ := engine.openUnit_eq state chunk runner present
    rw [opened, if_neg present]
    unfold EngineState.unitNames
    rw [List.map_append]
    rfl

variable [Shown S] [Shown F] [Shown M]

theorem units_work (chunk runner : String) (message : Message S F M) :
    (engine.work state chunk runner message).1.units = state.units := by
  unfold work
  cases engine.registry.analyzer runner with
  | error cause => rfl
  | ok analyzer =>
      dsimp only
      split
      · rfl
      · obtain ⟨log, finished⟩ :=
          engine.finishStep_eq state chunk runner message (analyzer.step message)
        rw [finished]

theorem units_resolve (chunk runner : String) (message : Message S F M) :
    (engine.resolve state chunk runner message).1.units = state.units := by
  unfold resolve
  split
  · split
    · split <;> rfl
    · rfl
  · rfl

variable [DecidableEq S] [DecidableEq F]

theorem unitNames_record (chunk runner : String) (message : Message S F M) :
    (engine.record state chunk runner message).1.unitNames = state.unitNames := by
  unfold record
  split
  · exact state.unitNames_putStore chunk runner _
  · rfl

/-- Handling a message brings no unit into being twice. -/
theorem nodup_unitNames_handle (distinct : state.unitNames.Nodup) (place : Place)
    (message : Message S F M) : (engine.handle state place message).1.unitNames.Nodup := by
  have opened (chunk runner : String) :
      (engine.openUnit state chunk runner).unitNames.Nodup := by
    rw [unitNames_openUnit]
    split
    · exact distinct
    · rename_i absent
      refine distinct.append (List.nodup_singleton _) (List.disjoint_singleton.mpr ?_)
      exact fun member => absent ((state.hasUnit_iff chunk runner).mpr member)
  unfold handle
  split
  · exact distinct
  · cases place.destination engine.strategy state.hasUnit message with
    | project =>
        cases message with
        | newChunk chunk => exact (state.unitNames_announce chunk).symm ▸ distinct
        | _ => exact distinct
    | dropped => exact distinct
    | noData chunk => exact (state.unitNames_announce chunk).symm ▸ distinct
    | storage chunk runner =>
        dsimp only
        rw [unitNames_record]
        exact opened chunk runner
    | workers chunk runner =>
        have same := engine.units_work (engine.openUnit state chunk runner) chunk runner message
        unfold EngineState.unitNames at opened ⊢
        dsimp only
        rw [same]
        exact opened chunk runner
    | indirection chunk runner =>
        have same := engine.units_resolve (engine.openUnit state chunk runner) chunk runner message
        unfold EngineState.unitNames at opened ⊢
        dsimp only
        rw [same]
        exact opened chunk runner

theorem nodup_unitNames_take (distinct : state.unitNames.Nodup)
    (rest : List (Place × Message S F M)) (place : Place) (message : Message S F M) :
    (engine.take state rest place message).unitNames.Nodup :=
  engine.nodup_unitNames_handle { state with pending := rest } distinct place message

variable {engine} {log : Log} {history : History S F M}

theorem Reaches.nodup_unitNames (reaches : engine.Reaches log history) :
    history.state.unitNames.Nodup := by
  induction reaches with
  | refl => exact List.nodup_nil
  | tail _ move inductionHypothesis =>
      cases move with
      | send accepted =>
          unfold Engine.send at accepted
          split at accepted
          · cases accepted
          · cases accepted
            exact inductionHypothesis
      | handle waiting => exact engine.nodup_unitNames_take _ inductionHypothesis _ _ _

end Engine

/-! ### Every message is handled once -/

/-- Every message has one way from every manager, over each manager at most once, and ends where
it rightly ends, which is also where the engine takes it.  In every run a unit has one
store, and what the unit owns changes that store only. -/
theorem delivered_once [DecidableEq S] [DecidableEq F] [Shown S] [Shown F] [Shown M]
    (engine : Engine S F M) :
    (∀ (message : Message S F M) (start : Place) (units : ℕ → String → String → Bool),
      ∃ path destination,
        Delivers engine.strategy units message start path destination ∧
        (∀ other last, Travels engine.strategy message units start other last →
          other = path ∧ last = destination) ∧
        ∀ hasUnit, units = (fun _ => hasUnit) →
          start.destination engine.strategy hasUnit message = destination) ∧
    ∀ log history, engine.Reaches log history →
      history.state.unitNames.Nodup ∧
      ∀ (place : Place) (message : Message S F M) (chunk runner : String),
        (engine.handle history.state place message).1.storeOf chunk runner =
          if message.isOwnedBy engine.strategy chunk runner = true then
            ((history.state.storeOf chunk runner).react message).1
          else history.state.storeOf chunk runner := by
  constructor
  · intro message start units
    obtain ⟨path, destination, delivers, _⟩ := start.delivers engine.strategy units message
    refine ⟨path, destination, delivers, fun other last => delivers.travels.unique, ?_⟩
    rintro hasUnit rfl
    exact delivers.destination_eq
  · intro log history reaches
    refine ⟨reaches.nodup_unitNames, fun place message chunk runner => ?_⟩
    have running := (Engine.Reaches.accounts reaches).running
    exact (engine.handle_effect history.state running place message).stores chunk runner

end Tabulation
