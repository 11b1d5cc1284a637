import LoadScenario.Proofs.SimulationStep
import Mathlib.Data.List.Induction

/-!
# Whatever is asked of a simulation, it stays in order

The operations of a simulation may be asked for in any order and as often as one likes, and before
each of them the files may have become anything. A run is therefore a list of operations, each with
the files that it finds. Two things hold of every run, and neither needs a hypothesis.

What a draft holds fits together and follows from what has been read (`Consistent`): the environment
and the collection are the last that were read with success, there is a collection from the first
state on that is not empty, the feeder is that of the environment and the requests are the analyses
of those that the collection lists, each from the state on in which it is derived and not before.
Every step keeps that, which is shown effect by effect.

And every next step, whichever it is, goes on by one state or stays where it is (`Step.Orderly`).
Only a step that succeeds goes on, one that fails leaves nothing but warnings, and one that is asked
for in the wrong state leaves not even those and does not touch the files. A collection is never
missed, because the draft is consistent.
-/

namespace LoadScenario

/-- The requests of a collection in the order in which they run, each analyzed. -/
def Collection.Analyses (c : Collection) (requests : List Request) : Prop :=
  (c.sequence.map fun entry => (c.find? entry.2).map (·.request)) = requests.map some

theorem analyses_of_analyzeAll {c : Collection} {l : List (String × String)}
    {requests : List Request} {ws : List Warning}
    (h : Simulation.analyzeAll c l = (.ok requests, ws)) :
    (l.map fun entry => (c.find? entry.2).map (·.request)) = requests.map some := by
  induction l generalizing requests ws with
  | nil =>
      obtain rfl := Except.ok.inj (congrArg Prod.fst h)
      rfl
  | cons entry rest ih =>
      obtain ⟨container, id⟩ := entry
      rw [Simulation.analyzeAll] at h
      cases hfind : c.find? id with
      | none =>
          simp only [hfind] at h
          cases congrArg Prod.fst h
      | some r =>
          rcases hrest : Simulation.analyzeAll c rest with ⟨answer, ws'⟩
          simp only [hfind, hrest] at h
          cases answer with
          | error failure => cases congrArg Prod.fst h
          | ok later =>
              obtain rfl := Except.ok.inj (congrArg Prod.fst h)
              rw [List.map_cons, List.map_cons, ih hrest, hfind]
              rfl

namespace Draft

variable {W : Type} [FileAccess (StateM W)]

namespace Step

variable (x : Step W)

/-- The environment that the step has read, if it succeeded in reading one at a path. -/
def environmentRead? : Option Environment :=
  match x.answer, x.operation with
  | .ok (), .readEnvironment (some path) => (x.textAt? path).bind Environment.read?
  | _, _ => none

/-- The collection that the step has read, if it succeeded in reading one. -/
def collectionRead? : Option Collection :=
  match x.answer, x.operation with
  | .ok (), .readCollection path => (x.textAt? path).bind Collection.read?
  | _, _ => none

/-- What is to be expected of every step. -/
structure Orderly : Prop where
  moves : x.answer = .ok () → x.operation.action ≠ .readEnvironment →
    x.before.state.next? = some x.after.state
  stays : x.answer ≠ .ok () ∨ x.operation.action = .readEnvironment →
    x.after.state = x.before.state
  keeps : x.answer ≠ .ok () →
    x.after.state = x.before.state ∧ x.after.environment = x.before.environment ∧
      x.after.collection = x.before.collection ∧ x.after.feeder = x.before.feeder ∧
      x.after.requests = x.before.requests
  refuses : ¬ x.operation.action.PossibleIn x.before.state →
    x.answer = .error (.failure (.wrongState x.operation.action x.before.state)) ∧
      x.after = x.before ∧ x.filesAfter = x.files
  refusesOnly : ∀ a s, x.answer = .error (.failure (.wrongState a s)) →
    ¬ x.operation.action.PossibleIn x.before.state
  hasCollection : x.answer ≠ .error .noCollection

end Step

/-- The draft after a run. -/
def reached (d : Draft) : List (Operation × W) → Draft
  | [] => d
  | (op, files) :: rest => reached (Step.after ⟨d, op, files⟩) rest

/-- The steps of a run. -/
def steps (d : Draft) : List (Operation × W) → List (Step W)
  | [] => []
  | (op, files) :: rest => ⟨d, op, files⟩ :: steps (Step.after ⟨d, op, files⟩) rest

/-- The environment that was read last; without one there are no variables. -/
def lastEnvironment (past : List (Step W)) : Environment :=
  ((past.filterMap Step.environmentRead?).getLast?).getD []

/-- The collection that was read last. -/
def lastCollection? (past : List (Step W)) : Option Collection :=
  (past.filterMap Step.collectionRead?).getLast?

/-- What a draft holds after some steps. -/
structure Consistent (past : List (Step W)) (d : Draft) : Prop where
  environment : d.environment = lastEnvironment past
  collection : d.collection = lastCollection? past
  collectionPresent : d.collection.isSome ↔ d.state ≠ .empty
  feederBefore : d.state = .empty ∨ d.state = .loaded → d.feeder = .empty
  feederAfter : ¬ (d.state = .empty ∨ d.state = .loaded) →
    Feeder.build (lastEnvironment past) = .ok d.feeder
  requestsBefore : d.state = .empty ∨ d.state = .loaded ∨ d.state = .feederBuilt → d.requests = []
  requestsAfter : ¬ (d.state = .empty ∨ d.state = .loaded ∨ d.state = .feederBuilt) →
    ∃ c, lastCollection? past = some c ∧ c.Analyses d.requests

variable {past : List (Step W)} {d : Draft} {x : Step W}

/-! ## A step of a consistent draft is orderly -/

/-- A step that succeeds, and with it the draft goes on. -/
theorem Step.orderly_of_success (hanswer : x.answer = .ok ())
    (haction : x.operation.action ≠ .readEnvironment)
    (hpossible : x.operation.action.PossibleIn x.before.state)
    (hnext : x.before.state.next? = some x.after.state) : x.Orderly where
  moves _ _ := hnext
  stays h := absurd h (by simp [hanswer, haction])
  keeps h := absurd hanswer h
  refuses h := absurd hpossible h
  refusesOnly _ _ h := by simp [hanswer] at h
  hasCollection := by simp [hanswer]

theorem Consistent.orderly (hconsistent : Consistent past x.before) : x.Orderly := by
  have heffect := x.effect
  generalize hanswer : x.answer = answer at heffect
  generalize hafter : x.after = after at heffect
  generalize hfiles : x.filesAfter = files at heffect
  cases heffect with
  | refused h =>
      refine ⟨by simp [hanswer], fun _ => by rw [hafter], fun _ => by rw [hafter]; simp, ?_, ?_,
        by simp [hanswer]⟩
      · exact fun _ => ⟨hanswer, hafter, hfiles⟩
      · exact fun _ _ _ => h
  | failed h hcause =>
      refine ⟨by simp [hanswer], fun _ => by rw [hafter], ?_, fun hno => absurd h hno, ?_,
        by simp [hanswer]⟩
      · rw [hafter]
        exact fun _ => ⟨rfl, rfl, rfl, rfl, rfl⟩
      · intro a s hwrong
        rw [hanswer] at hwrong
        exact absurd (Obstacle.failure.inj (Except.error.inj hwrong)) (hcause a s)
  | collectionMissing _ hstate hnone =>
      have hthere := hconsistent.collectionPresent.mpr hstate
      rw [hnone] at hthere
      cases hthere
  | environmentKept h hop =>
      refine ⟨?_, fun _ => by rw [hafter], fun hno => absurd hanswer hno, fun hno => absurd h hno,
        by simp [hanswer], by simp [hanswer]⟩
      rw [hop]
      exact fun _ hno => absurd rfl hno
  | environmentRead h hop hread =>
      refine ⟨?_, fun _ => by rw [hafter], fun hno => absurd hanswer hno,
        fun hno => absurd h hno, by simp [hanswer], by simp [hanswer]⟩
      rw [hop]
      exact fun _ hno => absurd rfl hno
  | collectionRead hop hstate _ | feederDerived hop hstate _ | requestsDerived hop hstate _ _
  | written hop hstate =>
      refine Step.orderly_of_success hanswer ?_ ?_ ?_
      · rw [hop]
        exact nofun
      · rw [hop, hstate]
        rfl
      · rw [hafter, hstate]
        rfl

/-! ## What a step reads -/

namespace Step

theorem environmentRead?_eq_none
    (h : x.answer ≠ .ok () ∨ ∀ path, x.operation ≠ .readEnvironment (some path)) :
    x.environmentRead? = none := by
  rw [environmentRead?]
  split
  · next path hanswer hop =>
      rcases h with h | h
      · exact absurd hanswer h
      · exact absurd hop (h path)
  · rfl

theorem collectionRead?_eq_none
    (h : x.answer ≠ .ok () ∨ ∀ path, x.operation ≠ .readCollection path) :
    x.collectionRead? = none := by
  rw [collectionRead?]
  split
  · next path hanswer hop =>
      rcases h with h | h
      · exact absurd hanswer h
      · exact absurd hop (h path)
  · rfl

/-- A step that fails or is no request to read has read nothing. -/
structure Unread (x : Step W) : Prop where
  environment : x.environmentRead? = none
  collection : x.collectionRead? = none

theorem unread_of_error (h : x.answer ≠ .ok ()) : x.Unread :=
  ⟨environmentRead?_eq_none (.inl h), collectionRead?_eq_none (.inl h)⟩

theorem unread_of_operation (henvironment : ∀ path, x.operation ≠ .readEnvironment (some path))
    (hcollection : ∀ path, x.operation ≠ .readCollection path) : x.Unread :=
  ⟨environmentRead?_eq_none (.inr henvironment), collectionRead?_eq_none (.inr hcollection)⟩

end Step

theorem lastEnvironment_concat (past : List (Step W)) (x : Step W) :
    lastEnvironment (past ++ [x]) = x.environmentRead?.getD (lastEnvironment past) := by
  rw [lastEnvironment, List.filterMap_append, List.getLast?_append, lastEnvironment]
  cases hread : x.environmentRead? with
  | none => simp [hread]
  | some environment => simp [hread]

theorem lastCollection?_concat (past : List (Step W)) (x : Step W) :
    lastCollection? (past ++ [x]) = x.collectionRead?.or (lastCollection? past) := by
  rw [lastCollection?, List.filterMap_append, List.getLast?_append, lastCollection?]
  cases hread : x.collectionRead? with
  | none => simp [hread]
  | some c => simp [hread]

/-! ## Every step keeps a draft consistent -/

theorem Consistent.unread (h : Consistent past d) (hx : x.Unread) : Consistent (past ++ [x]) d := by
  obtain ⟨henvironment, hcollection, hpresent, hfeeder, hfeeder', hrequests, hrequests'⟩ := h
  have hsame : lastEnvironment (past ++ [x]) = lastEnvironment past := by
    rw [lastEnvironment_concat, hx.environment, Option.getD_none]
  have hsame' : lastCollection? (past ++ [x]) = lastCollection? past := by
    rw [lastCollection?_concat, hx.collection, Option.none_or]
  rw [← hsame] at henvironment hfeeder'
  rw [← hsame'] at hcollection hrequests'
  exact ⟨henvironment, hcollection, hpresent, hfeeder, hfeeder', hrequests, hrequests'⟩

/-- Warnings are no part of what has to fit together. -/
theorem Consistent.warn (h : Consistent past d) (ws : List Warning) :
    Consistent past { d with warnings := ws } :=
  ⟨h.environment, h.collection, h.collectionPresent, h.feederBefore, h.feederAfter,
    h.requestsBefore, h.requestsAfter⟩

theorem Consistent.step (h : Consistent past x.before) : Consistent (past ++ [x]) x.after := by
  have heffect := x.effect
  generalize hanswer : x.answer = answer at heffect
  generalize x.after = after at heffect ⊢
  generalize x.filesAfter = files at heffect
  cases heffect with
  | refused _ | collectionMissing _ _ _ =>
      exact h.unread (Step.unread_of_error (by rw [hanswer]; exact nofun))
  | failed _ _ => exact (h.unread (Step.unread_of_error (by rw [hanswer]; exact nofun))).warn _
  | environmentKept _ hop =>
      exact h.unread (Step.unread_of_operation (by simp [hop]) (by simp [hop]))
  | @environmentRead path environment _ hstate hop hread =>
      have henvironmentRead : x.environmentRead? = some environment := by
        rw [Step.environmentRead?, hanswer, hop]
        exact hread
      have hcollectionRead : x.collectionRead? = none :=
        Step.collectionRead?_eq_none (.inr (by simp [hop]))
      rw [hop] at hstate
      change x.before.state = .empty ∨ x.before.state = .loaded at hstate
      -- Here the feeder has not been derived yet, so the new environment contradicts nothing.
      refine ⟨?_, ?_, h.collectionPresent, h.feederBefore, fun hno => absurd hstate hno,
        h.requestsBefore, fun hno => absurd (hstate.imp_right .inl) hno⟩
      · rw [lastEnvironment_concat, henvironmentRead, Option.getD_some]
      · rw [lastCollection?_concat, hcollectionRead, Option.none_or]
        exact h.collection
  | @collectionRead path c _ hop hstate hread =>
      have henvironmentRead : x.environmentRead? = none :=
        Step.environmentRead?_eq_none (.inr (by simp [hop]))
      have hcollectionRead : x.collectionRead? = some c := by
        rw [Step.collectionRead?, hanswer, hop]
        exact hread
      refine ⟨?_, ?_, by simp, fun _ => h.feederBefore (.inl hstate), fun hno => ?_,
        fun _ => h.requestsBefore (.inl hstate), fun hno => ?_⟩
      · rw [lastEnvironment_concat, henvironmentRead, Option.getD_none]
        exact h.environment
      · rw [lastCollection?_concat, hcollectionRead, Option.some_or]
      · exact absurd (.inr rfl) hno
      · exact absurd (.inr (.inl rfl)) hno
  | feederDerived hop hstate hbuild =>
      have hread := h.unread (Step.unread_of_operation (x := x) (by simp [hop]) (by simp [hop]))
      rw [hread.environment] at hbuild
      refine ⟨hread.environment, hread.collection, ?_, fun hno => ?_, fun _ => hbuild,
        fun _ => h.requestsBefore (.inr (.inl hstate)), fun hno => ?_⟩
      · exact ⟨fun _ => nofun, fun _ => h.collectionPresent.mpr (by rw [hstate]; exact nofun)⟩
      · rcases hno with hno | hno <;> cases hno
      · exact absurd (.inr (.inr rfl)) hno
  | @requestsDerived c _ _ hop hstate hcollection hrequests =>
      have hread := h.unread (Step.unread_of_operation (x := x) (by simp [hop]) (by simp [hop]))
      refine ⟨hread.environment, hread.collection, ?_, fun hno => ?_, fun _ => ?_, fun hno => ?_,
        fun _ => ⟨c, ?_, analyses_of_analyzeAll hrequests⟩⟩
      · exact ⟨fun _ => nofun, fun _ => h.collectionPresent.mpr (by rw [hstate]; exact nofun)⟩
      · rcases hno with hno | hno <;> cases hno
      · exact hread.feederAfter (by rw [hstate]; exact nofun)
      · rcases hno with hno | hno | hno <;> cases hno
      · rw [← hread.collection, hcollection]
  | written hop hstate =>
      have hread := h.unread (Step.unread_of_operation (x := x) (by simp [hop]) (by simp [hop]))
      refine ⟨hread.environment, hread.collection, ?_, fun hno => ?_, fun _ => ?_, fun hno => ?_,
        fun _ => ?_⟩
      · exact ⟨fun _ => nofun, fun _ => h.collectionPresent.mpr (by rw [hstate]; exact nofun)⟩
      · rcases hno with hno | hno <;> cases hno
      · exact hread.feederAfter (by rw [hstate]; exact nofun)
      · rcases hno with hno | hno | hno <;> cases hno
      · exact hread.requestsAfter (by rw [hstate]; exact nofun)

/-! ## Runs -/

theorem consistent_new (outputName : Option String) :
    Consistent (W := W) [] (new outputName) where
  environment := rfl
  collection := rfl
  collectionPresent := ⟨nofun, fun h => absurd rfl h⟩
  feederBefore _ := rfl
  feederAfter h := absurd (.inl rfl) h
  requestsBefore _ := rfl
  requestsAfter h := absurd (.inl rfl) h

theorem reached_concat (d : Draft) (events : List (Operation × W)) (op : Operation) (files : W) :
    d.reached (events ++ [(op, files)]) = Step.after ⟨d.reached events, op, files⟩ := by
  induction events generalizing d with
  | nil => rfl
  | cons event events ih => exact ih _

theorem steps_concat (d : Draft) (events : List (Operation × W)) (op : Operation) (files : W) :
    d.steps (events ++ [(op, files)]) = d.steps events ++ [⟨d.reached events, op, files⟩] := by
  induction events generalizing d with
  | nil => rfl
  | cons event events ih => exact congrArg _ (ih _)

theorem consistent_reached (outputName : Option String) (events : List (Operation × W)) :
    Consistent ((new outputName).steps events) ((new outputName).reached events) := by
  induction events using List.reverseRecOn with
  | nil => exact consistent_new outputName
  | append_singleton events event ih =>
      obtain ⟨op, files⟩ := event
      rw [steps_concat, reached_concat]
      exact ih.step

/-- Every run leads to a draft that holds what the run has read and what follows from it, and from
there every operation takes an orderly step, whatever the files are. -/
theorem run_consistent_and_orderly (outputName : Option String) (events : List (Operation × W)) :
    Consistent ((new outputName).steps events) ((new outputName).reached events) ∧
      ∀ (op : Operation) (files : W),
        (Step.mk ((new outputName).reached events) op files).Orderly := by
  have hreached := consistent_reached outputName events
  exact ⟨hreached, fun op files => hreached.orderly⟩

end Draft

end LoadScenario
