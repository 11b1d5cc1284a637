import LoadScenario.Command.Listing
import LoadScenario.Proofs.LoadedDocuments

/-!
# Listing keeps passwords and bodies to itself

The list command goes through the same analysis as a conversion, so every password and every raw
body is in its hands when it prints. None of it gets out: blanking the secrets of a collection
blanks them in the requests that are made of it, and nothing that is printed about a request can
tell whether they have been blanked. So what is printed is a function of the blanked collection.

Whether there is a body, and whether there are credentials, is no secret. The first one decides
whether a body file is listed, and the second one whether the headers may authenticate.
-/

namespace LoadScenario

/-! ## Blanking -/

def Credentials.blanked (c : Credentials) : Credentials := { c with password := "" }

/-- A recorded request whose password and raw body, if it has them, are empty. -/
def RequestRecord.blanked (r : RequestRecord) : RequestRecord :=
  { r with rawBody := r.rawBody.map fun _ => "", credentials := r.credentials.map (·.blanked) }

/-- A collection without secrets. Two collections come to the same one exactly if they differ in
nothing but passwords and the texts of raw bodies. -/
def Collection.blanked (c : Collection) : Collection :=
  { c with requests := c.requests.map (·.blanked) }

def Request.blanked (r : Request) : Request :=
  { r with
    auth := r.auth.map fun a => { a with password := "" }
    body := r.body.map fun b => { b with content := b.content.map fun _ => "" } }

def Stage.blanked : Stage → Stage
  | empty => .empty
  | loaded c => .loaded c.blanked
  | feederBuilt c feeder => .feederBuilt c.blanked feeder
  | requestsBuilt c feeder rs => .requestsBuilt c.blanked feeder (rs.map (·.blanked))
  | generated c feeder rs => .generated c.blanked feeder (rs.map (·.blanked))

def Simulation.blanked (s : Simulation) : Simulation := { s with stage := s.stage.blanked }

/-! ## The analysis of a blanked collection -/

namespace RequestRecord

theorem auth?_blanked (r : RequestRecord) :
    r.blanked.auth? = r.auth?.map fun a => { a with password := "" } := by
  rw [auth?, auth?, Option.map_map]
  show r.authScheme?.map _ = r.authScheme?.map _
  cases hcredentials : r.credentials with
  | none => simp [blanked, hcredentials, Function.comp_def]; rfl
  | some c => simp [blanked, hcredentials, Credentials.blanked, Function.comp_def]; rfl

theorem headerMap_blanked (r : RequestRecord) : r.blanked.headerMap = r.headerMap := by
  rw [headerMap, headerMap, auth?_blanked, Option.isSome_map]
  rfl

theorem body?_blanked (r : RequestRecord) :
    r.blanked.body? = r.body?.map fun b => { b with content := b.content.map fun _ => "" } := by
  have hempty : translate "" = "" := rfl
  rw [body?, body?, headerMap_blanked]
  show r.bodyMode.bind _ = _
  cases r.bodyMode with
  | none => rfl
  | some mode =>
      simp only [Option.bind_some]
      split
      · simp [blanked, Option.map_map, Function.comp_def, hempty]
      · split
        · rfl
        · rfl

theorem request_blanked (r : RequestRecord) : r.blanked.request = r.request.blanked := by
  rw [request, auth?_blanked, headerMap_blanked, body?_blanked]
  rfl

/-- The warnings about a request are about its helper, the kind of its body and its script. -/
theorem warnings_blanked (r : RequestRecord) : r.blanked.warnings = r.warnings := rfl

end RequestRecord

theorem Collection.find?_blanked (c : Collection) (id : String) :
    c.blanked.find? id = (c.find? id).map (·.blanked) := by
  rw [find?, find?, blanked, List.find?_map]
  rfl

namespace Simulation

theorem analyzeAll_blanked (c : Collection) (ids : List (String × String)) :
    analyzeAll c.blanked ids =
      ((analyzeAll c ids).1.map (·.map (·.blanked)), (analyzeAll c ids).2) := by
  induction ids with
  | nil => rfl
  | cons id ids ih =>
      obtain ⟨container, id⟩ := id
      rw [analyzeAll, analyzeAll, Collection.find?_blanked]
      cases c.find? id with
      | none => rfl
      | some r =>
          simp only [Option.map_some, ih, RequestRecord.warnings_blanked]
          cases (analyzeAll c ids).1 with
          | error failure => rfl
          | ok rs => simp [Except.map, RequestRecord.request_blanked]

theorem deriveFeeder_blanked (s : Simulation) :
    s.blanked.deriveFeeder = (s.deriveFeeder.1, s.deriveFeeder.2.blanked) := by
  obtain ⟨outputName, environment, stage, warnings⟩ := s
  cases stage with
  | loaded c =>
      simp only [deriveFeeder, blanked, Stage.blanked]
      split
      · rfl
      · rfl
  | empty | feederBuilt | requestsBuilt | generated => rfl

theorem deriveRequests_blanked (s : Simulation) :
    s.blanked.deriveRequests = (s.deriveRequests.1, s.deriveRequests.2.blanked) := by
  obtain ⟨outputName, environment, stage, warnings⟩ := s
  cases stage with
  | feederBuilt c feeder =>
      have hanalysis := analyzeAll_blanked c c.sequence
      have hsequence : c.blanked.sequence = c.sequence := rfl
      simp only [deriveRequests, blanked, Stage.blanked, hsequence, hanalysis]
      cases (analyzeAll c c.sequence).1 with
      | error failure => rfl
      | ok rs => rfl
  | empty | loaded | requestsBuilt | generated => rfl

theorem name?_blanked (s : Simulation) : s.blanked.name? = s.name? := by
  obtain ⟨outputName, environment, stage, warnings⟩ := s
  cases stage <;> rfl

theorem feeder_blanked (s : Simulation) : s.blanked.feeder = s.feeder := by
  obtain ⟨outputName, environment, stage, warnings⟩ := s
  cases stage <;> rfl

theorem requests_blanked (s : Simulation) : s.blanked.requests = s.requests.map (·.blanked) := by
  obtain ⟨outputName, environment, stage, warnings⟩ := s
  cases stage <;> rfl

end Simulation

/-! ## What is printed -/

namespace Listing

theorem requestLines_blanked (color : Bool) (place : Nat) (r : Request) :
    requestLines color place r.blanked = requestLines color place r := by
  simp only [requestLines, Request.blanked, Option.toList_map, List.map_map, Function.comp_def]
  rfl

theorem requestsFrom_blanked (color : Bool) (place : Nat) (rs : List Request) :
    requestsFrom color place (rs.map (·.blanked)) = requestsFrom color place rs := by
  induction rs generalizing place with
  | nil => rfl
  | cons r rs ih => rw [List.map_cons, requestsFrom, requestsFrom, requestLines_blanked, ih]

theorem simulationLines_blanked (color : Bool) (s : Simulation) :
    simulationLines color s.blanked = simulationLines color s := by
  have hrequests : requestsLines color s.blanked.requests = requestsLines color s.requests := by
    rw [Simulation.requests_blanked, requestsLines, requestsLines, requestsFrom_blanked,
      List.length_map, List.isEmpty_map]
  rw [simulationLines, simulationLines, hrequests, Simulation.name?_blanked,
    Simulation.feeder_blanked]

/-! ## Two listings side by side -/

/-- What a listing prints once the collection is loaded. -/
def printedFor (color : Bool) (path : Path) (answer : Except Failure Unit) (s : Simulation) :
    Outcome :=
  match answer with
  | .error failure => ⟨printed (opening color path), .error failure⟩
  | .ok () =>
    ⟨printed (opening color path ++ simulationLines color s ++ warningLines color s.warnings),
      .ok ()⟩

/-- What is derived from a collection that is loaded. -/
def derive (s : Simulation) : Except Failure Unit × Simulation :=
  match s.deriveFeeder with
  | (.error failure, s) => (.error failure, s)
  | (.ok (), s) => s.deriveRequests

theorem printedFor_blanked (color : Bool) (path : Path) (answer : Except Failure Unit)
    (s : Simulation) : printedFor color path answer s.blanked = printedFor color path answer s := by
  cases answer with
  | error failure => rfl
  | ok _ => rw [printedFor, printedFor, simulationLines_blanked]; rfl

theorem derive_blanked (s : Simulation) :
    derive s.blanked = ((derive s).1, (derive s).2.blanked) := by
  rw [derive, derive, Simulation.deriveFeeder_blanked]
  rcases s.deriveFeeder with ⟨answer, s'⟩
  cases answer with
  | error failure => rfl
  | ok _ => exact s'.deriveRequests_blanked

section

variable {W : Type} [FileAccess (StateM W)]

theorem runOn_run (color : Bool) (path : Path) (environment : Option Path) (w : W) :
    (runOn (run color path environment : StateM W _) w).1 =
      let prepared := (runOn (prepare path environment : StateM W _) w).1
      printedFor color path prepared.1 prepared.2 := by
  rw [run, runOn_bind]
  rcases runOn (prepare path environment : StateM W _) w with ⟨⟨answer, s⟩, w'⟩
  cases answer with
  | error failure => rfl
  | ok _ => rfl

/-- What is prepared depends on how the environment is loaded and on the collection in the file. -/
theorem runOn_prepare {path : Path} {environment : Option Path} {w w₁ : W}
    {loaded : Except Failure Unit × Simulation}
    (henvironment : runOn ((Simulation.new none).readEnvironment environment) w = (loaded, w₁))
    {text : String} {c : Collection} (htext : (runOn (readText path) w₁).1 = .ok text)
    (hc : Collection.read? text = some c) :
    (runOn (prepare path environment) w).1 =
      match loaded.1 with
      | .error failure => (.error failure, loaded.2)
      | .ok () => derive { loaded.2 with stage := .loaded c } := by
  obtain ⟨answer, s⟩ := loaded
  have hstage : s.stage = .empty := by
    obtain ⟨_, _, hkept⟩ := (Simulation.new none).readEnvironment_cases environment w
    rw [henvironment] at hkept
    rw [(Prod.mk.inj hkept).2]
    rfl
  rw [prepare, runOn_bind, henvironment]
  cases answer with
  | error failure => rfl
  | ok _ =>
      have hread := Simulation.runOn_readCollection hstage (Prod.ext htext rfl) hc
      simp only [runOn_bind, hread, derive]
      rcases Simulation.deriveFeeder _ with ⟨derived, s'⟩
      cases derived with
      | error failure => rfl
      | ok _ => rfl

/-- Listing tells nothing of passwords and raw bodies. Two collections that differ in nothing else
are listed alike, with the same warnings and the same failures, whatever environment is loaded. -/
theorem run_of_blanked_eq (color : Bool) (path : Path) (environment : Option Path)
    {w w' w₁ w₁' : W} {loaded : Except Failure Unit × Simulation}
    (henvironment : runOn ((Simulation.new none).readEnvironment environment) w = (loaded, w₁))
    (henvironment' : runOn ((Simulation.new none).readEnvironment environment) w' = (loaded, w₁'))
    {text text' : String} (htext : (runOn (readText path) w₁).1 = .ok text)
    (htext' : (runOn (readText path) w₁').1 = .ok text') {c c' : Collection}
    (hc : Collection.read? text = some c) (hc' : Collection.read? text' = some c')
    (hsecret : c.blanked = c'.blanked) :
    let outcome := (runOn (run color path environment) w).1
    let outcome' := (runOn (run color path environment) w').1
    outcome.result = outcome'.result ∧ outcome.stdout = outcome'.stdout := by
  have hprepared : ∀ {w₂ w₃ : W} {document : String} {collection : Collection},
      runOn ((Simulation.new none).readEnvironment environment) w₂ = (loaded, w₃) →
      (runOn (readText path) w₃).1 = .ok document → Collection.read? document = some collection →
      (runOn (run color path environment) w₂).1 =
        match loaded.1 with
        | .error failure => printedFor color path (.error failure) loaded.2
        | .ok () =>
          let derived := derive { loaded.2 with stage := .loaded collection.blanked }
          printedFor color path derived.1 derived.2 := by
    intro w₂ w₃ document collection h₁ h₂ h₃
    rw [runOn_run, runOn_prepare h₁ h₂ h₃]
    cases loaded.1 with
    | error failure => rfl
    | ok _ =>
        have hderived := derive_blanked { loaded.2 with stage := .loaded collection }
        rw [Simulation.blanked, Stage.blanked] at hderived
        simp only [hderived, printedFor_blanked]
  have hsame : (runOn (run color path environment) w).1 =
      (runOn (run color path environment) w').1 := by
    rw [hprepared henvironment htext hc, hprepared henvironment' htext' hc', hsecret]
  exact ⟨congrArg Outcome.result hsame, congrArg Outcome.stdout hsame⟩

end

/-- A collection with one request that signs in and posts a raw body. -/
def signIn (password body : String) : Collection where
  name := "Shop"
  folders := []
  requests := [⟨"1", "Sign in", "POST", "/session", "", some "raw", some body, some "basicAuth",
    some ⟨"ada", password⟩, none⟩]
  order := ["1"]

theorem run_signIn :
    (signIn "s3cret" "pin=1").blanked = (signIn "hunter2" "pin=2").blanked ∧
      let fs := Simulation.inputs (signIn "s3cret" "pin=1") [⟨"host", "shop", true⟩] ""
      let fs' := Simulation.inputs (signIn "hunter2" "pin=2") [⟨"host", "shop", true⟩] ""
      let outcome := (runOn (run false ⟨"c.json"⟩ (some ⟨"env.json"⟩)) fs).1
      let outcome' := (runOn (run false ⟨"c.json"⟩ (some ⟨"env.json"⟩)) fs').1
      outcome.result = outcome'.result ∧ outcome.stdout = outcome'.stdout :=
  ⟨rfl, run_of_blanked_eq false ⟨"c.json"⟩ (some ⟨"env.json"⟩)
    (Simulation.runOn_readEnvironment (.inl rfl) rfl (Environment.read?_compact _))
    (Simulation.runOn_readEnvironment (.inl rfl) rfl (Environment.read?_compact _))
    rfl rfl (Collection.read?_compact _) (Collection.read?_compact _) rfl⟩

end Listing

end LoadScenario
