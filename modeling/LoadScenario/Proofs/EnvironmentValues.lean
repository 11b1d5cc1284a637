import LoadScenario.Proofs.CommandCourse
import LoadScenario.Proofs.RunEnd
import LoadScenario.Proofs.TwinRuns

/-!
# Where the values of variables go

The generated scenario refers to variables by name only and takes their values from the feeder when
it runs. So two conversions that differ in their environments, with whatever tokens and passwords
there are, write the same scenario and the same bodies and give the same warnings. What differs is
the feeder file. All that the environments have to agree in is whether there are variables at all.

With one schedule both conversions stay in step. With different schedules that holds as far as one
conversion would come out the same with both: always for the scenario, for the bodies if requests
that share a file have the same body, and for the warnings, up to their order, if no bodies share a
file and the names with slashes lead to their files. Two tokens and two schedules show that the
bodies and the warnings come out differently otherwise, and then that has nothing to do with the
tokens.
-/

namespace LoadScenario

open Work

/-! ## Writing -/

namespace Conversion

/-- The places from which one of two conversions loads an environment. -/
def IsEnvironment (c : Conversion) (other : Option Path) (here l : Location) : Prop :=
  ∃ p, (c.environment = some p ∨ other = some p) ∧ l = p.destination here

/-- Two conversions find the same files, but for what the documents of their environments hold. -/
structure FindsAlike (c : Conversion) (other : Option Path) (fs fs' : FileSystem) : Prop where
  here : fs'.here = fs.here
  alike : ∀ l, (fs'.node? l).map Node.blanked = (fs.node? l).map Node.blanked
  elsewhere : ∀ l, ¬ c.IsEnvironment other fs.here l → fs'.node? l = fs.node? l
  collection : fs'.node? (c.collection.destination fs.here) =
    fs.node? (c.collection.destination fs.here)
  template : ∀ p, c.template = some p →
    fs'.node? (p.destination fs.here) = fs.node? (p.destination fs.here)

theorem FindsAlike.twins {c : Conversion} {other : Option Path} {fs fs' : FileSystem}
    (h : c.FindsAlike other fs fs') : Twins (fun _ => False) fs fs' fs fs' :=
  ⟨rfl, h.here, h.alike, fun _ _ => .inr ⟨rfl, rfl⟩⟩

/-- A conversion succeeds if its documents can be loaded and what is derived from them written. -/
theorem steps_of_writeAll {c : Conversion} {coll : Collection} {e : Environment} {feeder : Feeder}
    {rs : List Request} {found : List Warning} {fs : FileSystem} {schedule : Schedule}
    {report : Report} {name : String} (hname : className (c.output.getD coll.name) = name)
    (henvironment : runOn ((Simulation.new c.output).readEnvironment c.environment) fs =
      ((.ok (), ⟨c.output, e, .empty, []⟩), fs))
    (hcollection : runOn (Simulation.readCollection ⟨c.output, e, .empty, []⟩ c.collection) fs =
      ((.ok (), ⟨c.output, e, .loaded coll, []⟩), fs))
    (hbuild : Feeder.build e = .ok feeder)
    (hanalyze : Simulation.analyzeAll coll coll.sequence = (.ok rs, found))
    (hok : (runOn (Simulation.writeAll schedule c.layout c.template name feeder rs) fs).1.1 =
      .ok report) (color : Bool) :
    let written := runOn (Simulation.writeAll schedule c.layout c.template name feeder rs) fs
    runOn (c.steps color schedule) fs =
      ((c.loadingLines color ++ reportLines color c.layout report, .ok (),
        ⟨c.output, e, .generated coll feeder rs, found ++ written.1.2⟩), written.2) := by
  subst hname
  rcases hall : runOn (Simulation.writeAll schedule c.layout c.template
    (className (c.output.getD coll.name)) feeder rs) fs with ⟨⟨answer, ws⟩, after⟩
  rw [hall] at hok
  obtain rfl : answer = .ok report := hok
  have hwrite : runOn (Simulation.write schedule c.layout c.template
      ⟨c.output, e, .requestsBuilt coll feeder rs, found⟩) fs =
        ((.ok report, ⟨c.output, e, .generated coll feeder rs, found ++ ws⟩), after) :=
    Simulation.runOn_write_ok rfl hall
  refine steps_of_prepare (Simulation.runOn_prepare_eq_ok_iff.mpr ⟨_, _,
    ⟨c.output, e, .feederBuilt coll feeder, []⟩, _, henvironment, hcollection, ?_, ?_⟩) hwrite color
  · simp only [Simulation.deriveFeeder, hbuild]
  · simp only [Simulation.deriveRequests, hanalyze, List.nil_append]

/-- A request that sends a token in a header and in its body. -/
def order : RequestRecord :=
  ⟨"1", "Order", "POST", "/orders", "Authorization: {{token}}\n", some "raw",
    some "key={{token}}", none, none, none⟩

def ordering : Collection := ⟨"Shop", [], [order], ["1"]⟩

def orders : Conversion := ⟨⟨"c.json"⟩, some ⟨"env.json"⟩, none, Simulation.uploadLayout, none⟩

/-- The documents of a conversion with a token, beside other files. -/
def documents (coll : Collection) (others : List (Location × Node)) (token : String) : FileSystem :=
  let inputs := Simulation.inputs coll [⟨"token", token, true⟩] ""
  { inputs with nodes := inputs.nodes ++ others }

/-- The files of a conversion with a token. -/
def tokenFiles (token : String) : FileSystem :=
  Simulation.inputs ordering [⟨"token", token, true⟩] ""

section

variable (coll : Collection) (others : List (Location × Node)) (token token' : String)

end

theorem runOn_readText_of_read {fs : FileSystem} {p : Path} {text : String}
    (hread : fs.read p = .ok (.text text)) :
    runOn (readText p : StateM FileSystem _) fs = (.ok text, fs) := by
  show (Except.bind (fs.read p) Content.text?, fs) = _
  rw [hread]
  rfl

/-- The conversion succeeds if what it writes can be written. -/
theorem steps_of_documents {coll : Collection} {token name : String} {output : Option String}
    {layout : Layout} {feeder : Feeder} {rs : List Request} {found : List Warning}
    {schedule : Schedule} {report : Report} {fs : FileSystem}
    (hcollection : runOn (readText ⟨"c.json"⟩ : StateM FileSystem _) fs =
      (.ok coll.toJson.compact, fs))
    (henvironment : runOn (readText ⟨"env.json"⟩ : StateM FileSystem _) fs =
      (.ok (Environment.toJson [⟨"token", token, true⟩]).compact, fs))
    (hbuild : Feeder.build [⟨"token", token, true⟩] = .ok feeder)
    (hname : className (output.getD coll.name) = name)
    (hanalyze : Simulation.analyzeAll coll coll.sequence = (.ok rs, found))
    (hok : (runOn (Simulation.writeAll schedule layout none name feeder rs) fs).1.1 =
      .ok report) :
    let c : Conversion := { orders with output, layout }
    let written := runOn (Simulation.writeAll schedule layout none name feeder rs) fs
    runOn (c.steps false schedule) fs =
      ((c.loadingLines false ++ reportLines false layout report, .ok (),
        ⟨output, [⟨"token", token, true⟩], .generated coll feeder rs, found ++ written.1.2⟩),
        written.2) :=
  steps_of_writeAll (c := { orders with output, layout }) hname
    (Simulation.runOn_readEnvironment (.inl rfl) henvironment (Environment.read?_compact _))
    (Simulation.runOn_readCollection rfl hcollection (Collection.read?_compact _))
    hbuild hanalyze hok false

section

variable (coll : Collection) (others : List (Location × Node)) (token : String)

theorem readText_collection :
    runOn (readText ⟨"c.json"⟩ : StateM FileSystem _) (documents coll others token) =
      (.ok coll.toJson.compact, documents coll others token) :=
  runOn_readText_of_read rfl

theorem readText_environment :
    runOn (readText ⟨"env.json"⟩ : StateM FileSystem _) (documents coll others token) =
      (.ok (Environment.toJson [⟨"token", token, true⟩]).compact, documents coll others token) :=
  runOn_readText_of_read rfl

end

theorem analyzeAll_ordering :
    Simulation.analyzeAll ordering ordering.sequence = (.ok [order.request], []) := by
  have hsequence : ordering.sequence = [("Shop", "1")] := by decide +kernel
  have hwarnings : order.warnings = [] := by decide +kernel
  have hfind : ordering.find? "1" = some order := by decide +kernel
  simp only [hsequence, Simulation.analyzeAll, hfind, hwarnings]
  rfl

theorem exists_steps_into {token name : String} {output : Option String} {layout : Layout}
    {feeder : Feeder} {schedule : Schedule} {report : Report}
    (hbuild : Feeder.build [⟨"token", token, true⟩] = .ok feeder)
    (hname : className (output.getD ordering.name) = name)
    (hok : (runOn (Simulation.writeAll schedule layout none name feeder [order.request])
      (tokenFiles token)).1.1 = .ok report) :
    ∃ told ws, runOn (steps { orders with output, layout } false schedule) (tokenFiles token) =
      ((told, .ok (), ⟨output, [⟨"token", token, true⟩], .generated ordering feeder [order.request],
        [] ++ ws⟩), (runOn (Simulation.writeAll schedule layout none name feeder [order.request])
          (tokenFiles token)).2) := by
  exact ⟨_, _, steps_of_documents (readText_collection ordering [] token)
    (readText_environment ordering [] token) hbuild hname analyzeAll_ordering hok⟩

theorem className_shop : className ((none : Option String).getD ordering.name) = "Shop" := by
  decide +kernel

theorem exists_steps_tokenFiles {token : String} {feeder : Feeder} {schedule : Schedule}
    {report : Report} (hbuild : Feeder.build [⟨"token", token, true⟩] = .ok feeder)
    (hok : (runOn (Simulation.writeAll schedule Simulation.uploadLayout none "Shop" feeder
      [order.request]) (tokenFiles token)).1.1 = .ok report) :
    ∃ told ws after, runOn (orders.steps false schedule) (tokenFiles token) =
      ((told, .ok (), ⟨none, [⟨"token", token, true⟩], .generated ordering feeder [order.request],
        [] ++ ws⟩), after) := by
  obtain ⟨told, ws, hrun⟩ := exists_steps_into hbuild className_shop hok
  exact ⟨told, ws, _, hrun⟩

/-- Where a conversion of the shop writes its files if it is run in the directory `home`. -/
structure GoesTo (layout : Layout) (rs : List Request) (scenario feeder : Location)
    (bodies : List Location) : Prop where
  scenario : (layout.scenario "Shop").destination ["home"] = scenario
  feeder : (layout.feeder "Shop").destination ["home"] = feeder
  bodies : (bodyPaths layout.bodies "Shop" rs).map (·.destination ["home"]) = bodies

section

variable {layout : Layout} {rs : List Request} {scenario feeder : Location}
  {bodies : List Location}

theorem GoesTo.mem_bodies (h : GoesTo layout rs scenario feeder bodies) {p : Path}
    (hp : p ∈ bodyPaths layout.bodies "Shop" rs) : p.destination ["home"] ∈ bodies := by
  rw [← h.bodies]
  exact List.mem_map_of_mem hp

end

theorem goesTo_order : GoesTo Simulation.uploadLayout [order.request]
    ["home", "out", "simulations", "Shop.scala"] ["home", "out", "data", "Shop.json"]
    [["home", "out", "bodies", "Shop", "Order_stringbody.txt"]] := by
  constructor <;> decide +kernel

def tokenFeeder : Feeder := ⟨.ofList [("token", "s3cret")]⟩

def otherFeeder : Feeder := ⟨.ofList [("token", "hunter2")]⟩

theorem build_feeders : Feeder.build [⟨"token", "s3cret", true⟩] = .ok tokenFeeder ∧
    Feeder.build [⟨"token", "hunter2", true⟩] = .ok otherFeeder := by
  decide +kernel

theorem writeAll_orders :
    (runOn (Simulation.writeAll .plain Simulation.uploadLayout none "Shop" tokenFeeder
        [order.request]) (tokenFiles "s3cret")).1.1 = .ok Simulation.shopReport ∧
      (runOn (Simulation.writeAll Simulation.disordered Simulation.uploadLayout none "Shop"
        otherFeeder [order.request]) (tokenFiles "hunter2")).1.1 = .ok Simulation.shopReport := by
  decide +kernel

end Conversion

end LoadScenario
