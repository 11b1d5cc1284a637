import LoadScenario.Files.Tree
import LoadScenario.Program
import LoadScenario.Proofs.KeptBodies
import LoadScenario.Proofs.OutputRun
import LoadScenario.Proofs.VariableLines
import LoadScenario.Proofs.WrittenOptions

/-!
# Where a conversion puts its files

A setting of a conversion can come from an option, from a variable of the process or from a line of
the variable file, and it comes from the first of these that has it. That is so for the home and for
each of the three output directories on its own. A directory that comes from nowhere lies below the
home, and that is all that the settings have to do with each other: a directory follows the home
only as long as nobody says where it is, and never another directory.
-/

namespace LoadScenario

/-! ## Adding variables -/

section

variable {lookup : String → Option String}

/-- A setting takes the value of its variable if it has none. -/
theorem addVariables_cons (r : Reading) (s : Setting) (l : List Setting)
    (h : (r.given.lookup s).or (s.variableName?.bind lookup) ≠ some "") : ∃ given,
      addVariables lookup r (s :: l) = addVariables lookup ⟨given, r.open?⟩ l ∧ ∀ x,
        given.lookup x =
          (r.given.lookup x).or (if x = s then s.variableName?.bind lookup else none) := by
  rw [addVariables, Reading.has]
  cases hset : r.given.lookup s with
  | some value =>
      have hsome : (r.given.lookup s).isSome := Option.isSome_of_eq_some hset
      exact ⟨r.given, rfl, fun x => (lookup_or_of_isSome hsome _ x).symm⟩
  | none =>
      rw [hset, Option.none_or] at h
      rw [Option.isSome_none, if_neg Bool.false_ne_true]
      cases hvariable : s.variableName?.bind lookup with
      | none => exact ⟨r.given, rfl, fun x => by rw [ite_self, Option.or_none]⟩
      | some value =>
          have hempty : value.isEmpty = false :=
            String.isEmpty_eq_false_iff.mpr fun heq => h (hvariable.trans (congrArg some heq))
          refine ⟨r.given ++ [(s, value)], ?_, lookup_concat r.given s value⟩
          simp only [Reading.take, hempty, Bool.false_and, Bool.false_eq_true, if_false]
          rfl

theorem addVariables_lookup {r : Reading} (l : List Setting)
    (h : ∀ x, (r.given.lookup x).or (x.variableName?.bind lookup) ≠ some "") : ∃ given,
      addVariables lookup r l = .ok ⟨given, r.open?⟩ ∧ ∀ x,
        given.lookup x =
          (r.given.lookup x).or (if x ∈ l then x.variableName?.bind lookup else none) := by
  induction l generalizing r with
  | nil => exact ⟨r.given, rfl, fun x => by rw [if_neg List.not_mem_nil, Option.or_none]⟩
  | cons s l ih =>
      obtain ⟨given, hstep, hgiven⟩ := addVariables_cons r s l (h s)
      obtain ⟨given', hread, hgiven'⟩ := ih (r := ⟨given, r.open?⟩) fun x => by
        rw [hgiven, Option.or_assoc]
        by_cases hx : x = s
        · rw [if_pos hx, hx, Option.or_self]
          exact h s
        · rw [if_neg hx, Option.none_or]
          exact h x
      refine ⟨given', hstep.trans hread, fun x => ?_⟩
      rw [hgiven', hgiven, Option.or_assoc]
      by_cases hx : x = s
      · rw [if_pos hx, hx, if_pos List.mem_cons_self]
        split
        · rw [Option.or_self]
        · rw [Option.or_none]
      · rw [if_neg hx, Option.none_or, if_congr (List.mem_cons.trans (or_iff_right hx)) rfl rfl]

end

/-! ## Where settings come from -/

/-- All that the settings of a conversion can come from. -/
structure Sources where
  options : List GivenOption
  process : VariableFile.Variables
  /-- The variable file, if there is one. -/
  file : Option Content

/-- The directories that a conversion writes to. -/
inductive OutputDirectory where
  | bodies
  | data
  | simulations

namespace OutputDirectory

/-- The setting that says where the directory is. -/
def setting : OutputDirectory → Setting
  | bodies => .bodies
  | data => .data
  | simulations => .simulations

/-- The name of the directory below the user's files. -/
def name : OutputDirectory → String
  | bodies => "bodies"
  | data => "data"
  | simulations => "simulations"

end OutputDirectory

/-- Where a directory is in a layout. -/
def Layout.directory (l : Layout) : OutputDirectory → Path
  | .bodies => l.bodies
  | .data => l.data
  | .simulations => l.simulations

theorem Layout.directory_resolve (home : Path) (given : Setting → Option Path)
    (d : OutputDirectory) :
    (Layout.resolve home (given .bodies) (given .data) (given .simulations)).directory d =
      (given d.setting).getD ((Layout.userFiles home).join d.name) := by
  cases d <;> rfl

namespace Sources

/-- What the variable file gives a name. -/
def fileValue? (s : Sources) (name : String) : Option String :=
  s.file.bind fun file => (VariableFile.definitions s.process file).lookup name

/-- The value of a variable. The process comes before the file. -/
def definition? (s : Sources) (name : String) : Option String :=
  (s.process.lookup name).or (s.fileValue? name)

/-- The value of a setting. An option comes before the variable. -/
def value? (s : Sources) (x : Setting) : Option String :=
  (optionValue? s.options x).or (x.variableName?.bind s.definition?)

def home (s : Sources) : Path := ⟨(s.value? .home).getD "./gatling"⟩

/-- Where a directory is: where its own value says, or else below the home. -/
def directory (s : Sources) (d : OutputDirectory) : Path :=
  match s.value? d.setting with
  | some value => ⟨value⟩
  | none => s.home.join ("user-files/" ++ d.name)

/-- The words of the command line. -/
def words (s : Sources) : List String := "convert" :: s.options.flatMap (·.words)

/-- The options are as they have to be, the variable file can be used, and no value is empty. -/
structure Sound (s : Sources) : Prop where
  options : ∀ o ∈ s.options, o.Readable ∧ o.value ≠ ""
  once : (s.options.map (·.setting)).Nodup
  collection : (optionValue? s.options .collection).isSome
  definitions : ∀ x : Setting, x.variableName?.bind s.definition? ≠ some ""
  usable : ∀ file ∈ s.file, ∃ known, VariableFile.extend s.process file = .ok known

/-- The program does a conversion, if it finds the variable file. -/
def Makes (s : Sources) (c : Conversion) : Prop :=
  ∀ {W : Type} [FileAccess (StateM W)] (depth : Nat) (isTerminal : Bool) (schedule : Schedule)
    (w w' : W),
    runOn (firstReadable (variableFiles depth)) w = (s.file, w') →
      runOn (runProgram s.process depth isTerminal schedule s.words) w =
        runOn (do
          let outcome ← c.run (usesColor s.definition? isTerminal) schedule
          return outcome.ending ("Conversion of " ++ c.collection.text ++ " failed")) w'

variable {s : Sources}

theorem Sound.value?_ne_empty (hs : s.Sound) (x : Setting) : s.value? x ≠ some "" := by
  rw [value?]
  cases hoption : optionValue? s.options x with
  | none => exact hs.definitions x
  | some value =>
      obtain ⟨before, after, hlist, -⟩ := List.lookup_eq_some_iff.mp hoption
      have hmem : (x, value) ∈ s.options.map fun o => (o.setting, o.value) := by
        rw [hlist]
        exact List.mem_append_right _ List.mem_cons_self
      obtain ⟨o, ho, heq⟩ := List.mem_map.mp hmem
      obtain ⟨-, rfl⟩ := Prod.mk.inj heq
      exact fun h => (hs.options o ho).2 (Option.some.inj h)

/-- All settings are read from where they come from. -/
theorem Sound.readSettings_eq (hs : s.Sound) : ∃ r,
    readSettings s.definition? .convert (s.options.flatMap (·.words)) = .ok r ∧
      ∀ x, r.given.lookup x = s.value? x := by
  have hall : ∀ x, x ∈ Verb.convert.settings := fun x => by cases x <;> decide
  have hwords : readWords .convert .start (s.options.flatMap (·.words)) =
      .ok ⟨s.options.map fun o => (o.setting, o.value), none⟩ :=
    readWords_options Reading.holds_start
      (fun o ho => ⟨(hs.options o ho).1, hall o.setting, (hs.options o ho).2⟩) hs.once
      fun _ _ => rfl
  have hadded : ∃ given, addVariables s.definition?
        ⟨s.options.map fun o => (o.setting, o.value), none⟩ Verb.convert.settings =
          .ok ⟨given, none⟩ ∧
      ∀ x, given.lookup x = (optionValue? s.options x).or
        (if x ∈ Verb.convert.settings then x.variableName?.bind s.definition? else none) :=
    addVariables_lookup _ hs.value?_ne_empty
  obtain ⟨given, hread, hlookup⟩ := hadded
  refine ⟨⟨given, none⟩, ?_, fun x => ?_⟩
  · rw [readSettings, hwords]
    exact hread
  · rw [hlookup, if_pos (hall x)]
    rfl

/-- What the program is asked to do. -/
def conversion (s : Sources) : Conversion where
  collection := ⟨(s.value? .collection).getD ""⟩
  environment := (s.value? .environment).map Path.mk
  output := s.value? .output
  layout := Layout.resolve s.home ((s.value? .bodies).map Path.mk) ((s.value? .data).map Path.mk)
    ((s.value? .simulations).map Path.mk)
  template := (s.value? .template).map Path.mk

theorem Sound.readInvocation_eq (hs : s.Sound) : readInvocation s.definition? s.words =
    .ok (.convert s.conversion.collection s.conversion.environment s.conversion.output s.home
      ((s.value? .bodies).map Path.mk) ((s.value? .data).map Path.mk)
      ((s.value? .simulations).map Path.mk) s.conversion.template) := by
  obtain ⟨r, hread, hlookup⟩ := hs.readSettings_eq
  obtain ⟨collection, hcollection⟩ : ∃ collection, s.value? .collection = some collection := by
    obtain ⟨value, hvalue⟩ := Option.isSome_iff_exists.mp hs.collection
    exact ⟨value, by rw [value?, hvalue, Option.some_or]⟩
  have hverb : verbOf? "convert" = some .convert := by decide
  have hhome : ((s.value? .home).map Path.mk).getD ⟨defaultHome⟩ = s.home := by
    rw [home]
    cases s.value? .home <;> rfl
  rw [words, readInvocation, hverb]
  simp only [hread]
  show invocationOf .convert r = _
  simp only [invocationOf, hlookup, hcollection, Option.map_some, hhome, conversion,
    Option.getD_some]

theorem Sound.makes_conversion (hs : s.Sound) : s.Makes s.conversion := by
  intro W _ depth isTerminal schedule w w' hfile
  have hknown : ∃ known, runOn (allVariables s.process depth) w = (.ok known, w') ∧
      (fun name => known.lookup name) = s.definition? := by
    rw [allVariables, runOn_bind, hfile]
    have husable := hs.usable
    cases hfound : s.file with
    | none =>
        refine ⟨s.process, rfl, funext fun name => ?_⟩
        rw [definition?, fileValue?, hfound]
        exact Option.or_none.symm
    | some file =>
        obtain ⟨known, hextend⟩ := husable file hfound
        refine ⟨known, congrArg (·, w') hextend, funext fun name => ?_⟩
        rw [VariableFile.lookup_of_extend hextend, definition?, fileValue?, hfound]
        rfl
  obtain ⟨known, hran, hlookup⟩ := hknown
  rw [runProgram, runOn_bind, hran]
  simp only [hlookup, hs.readInvocation_eq]
  rfl

/-! ## The directories -/

theorem join_userFiles (home : Path) {name : String} (hname : IsName name) :
    (Layout.userFiles home).join name = home.join ("user-files/" ++ name) := by
  have huserFiles : IsName "user-files" := ⟨by decide, by decide⟩
  exact (Path.join_join huserFiles hname).symm

theorem directory_conversion (s : Sources) (d : OutputDirectory) :
    s.conversion.layout.directory d = s.directory d := by
  have hname : IsName d.name := by
    cases d <;> exact ⟨by decide, by decide⟩
  have hresolve := Layout.directory_resolve s.home (fun x => (s.value? x).map Path.mk) d
  refine hresolve.trans ?_
  rw [directory, ← join_userFiles s.home hname]
  cases s.value? d.setting <;> rfl

/-- What a file gives a name is what its entries say. -/
theorem fileValue?_written {es : List VariableFile.Entry} (hes : ∀ e ∈ es, e.Readable)
    (hfile : s.file = some (.text (VariableFile.written es))) (name : String) :
    s.fileValue? name = VariableFile.given? es name := by
  rw [fileValue?, hfile, Option.bind_some, (VariableFile.definitions_written s.process hes).2,
    VariableFile.given?]

/-- A conversion writes to the directories that its settings say, each from where it comes first.
If the value of one setting changes and no other, the other directories stay where they are, but
for those below the home when the home is what changes. And a variable file of entries says what
its entries say. -/
theorem directories_from_sources (s : Sources) (hs : s.Sound) :
    (∃ c : Conversion, s.Makes c ∧ (∀ d, c.layout.directory d = s.directory d) ∧
      ∀ (s' : Sources) (x : Setting), s'.Sound → (∀ y ≠ x, s'.value? y = s.value? y) →
        ∃ c' : Conversion, s'.Makes c' ∧ ∀ d : OutputDirectory, d.setting ≠ x →
          (x = .home → (s.value? d.setting).isSome) →
            c'.layout.directory d = c.layout.directory d) ∧
      ∀ es, (∀ e ∈ es, e.Readable) → s.file = some (.text (VariableFile.written es)) →
        ∀ name, s.fileValue? name = VariableFile.given? es name := by
  refine ⟨⟨s.conversion, hs.makes_conversion, s.directory_conversion, fun s' x hs' hsame => ?_⟩,
    fun es hes hfile => fileValue?_written hes hfile⟩
  refine ⟨s'.conversion, hs'.makes_conversion, fun d hd hhome => ?_⟩
  rw [directory_conversion, directory_conversion, directory, directory, hsame d.setting hd]
  cases hvalue : s.value? d.setting with
  | some value => rfl
  | none =>
      have hx : Setting.home ≠ x := by
        rintro rfl
        rw [hvalue] at hhome
        cases hhome rfl
      rw [home, home, hsame .home hx]

/-- The entries of a variable file, one of them for a variable that a process may have. -/
def mixedEntries : List VariableFile.Entry := [
  ⟨"GATLING_HOME", "lost", .none⟩,
  ⟨"GATLING_BODIES", "my \"bodies\" $1", .double⟩]

/-- Settings from everywhere, some of them more than once. -/
def mixed : Sources where
  options := [⟨.data, "out/data", .longEquals⟩, ⟨.collection, "c.json", .short⟩]
  process := [("GATLING_DATA", "lost"), ("GATLING_HOME", "/opt/gatling")]
  file := some (.text (VariableFile.written mixedEntries))

/-- The same with another home. -/
def moved : Sources :=
  { mixed with options := ⟨.home, "here", .shortAttached⟩ :: mixed.options }

theorem readable_mixedEntries : ∀ e ∈ mixedEntries, e.Readable := by decide +kernel

theorem usable_mixed : ∀ file ∈ mixed.file, ∃ known,
    VariableFile.extend mixed.process file = .ok known := by
  rintro _ ⟨⟩
  exact (VariableFile.definitions_written _ readable_mixedEntries).1

theorem definition?_mixed : mixed.definition? = fun name =>
    (mixed.process.lookup name).or (VariableFile.given? mixedEntries name) := by
  funext name
  rw [definition?, fileValue?_written readable_mixedEntries rfl]

theorem value?_mixed (x : Setting) : mixed.value? x = (optionValue? mixed.options x).or
    (x.variableName?.bind fun name =>
      (mixed.process.lookup name).or (VariableFile.given? mixedEntries name)) := by
  rw [value?, definition?_mixed]

theorem sound_mixed : mixed.Sound where
  options := by decide +kernel
  once := by decide +kernel
  collection := by decide +kernel
  definitions := by
    intro x
    rw [definition?_mixed]
    cases x <;> decide +kernel
  usable := usable_mixed

theorem sound_moved : moved.Sound where
  options := by decide +kernel
  once := by decide +kernel
  collection := by decide +kernel
  definitions := sound_mixed.definitions
  usable := usable_mixed

theorem directories_from_mixed :
    mixed.Sound ∧ (∃ c c' : Conversion, mixed.Makes c ∧ moved.Makes c' ∧
      c.layout.directory .bodies = ⟨"my \"bodies\" $1"⟩ ∧
      c.layout.directory .data = ⟨"out/data"⟩ ∧
      c.layout.directory .simulations = ⟨"/opt/gatling/user-files/simulations"⟩ ∧
      c'.layout.directory .bodies = c.layout.directory .bodies ∧
      c'.layout.directory .data = c.layout.directory .data) ∧
      mixed.fileValue? "GATLING_HOME" = some "lost" := by
  obtain ⟨⟨c, hmakes, hdirectory, hchange⟩, hfile⟩ := directories_from_sources mixed sound_mixed
  have hothers : ∀ y ≠ Setting.home, moved.value? y = mixed.value? y := by
    intro y hy
    have hoption : optionValue? moved.options y = optionValue? mixed.options y := by
      rw [moved, optionValue?, List.map_cons, lookup_cons_eq, if_neg hy, Option.none_or]
      rfl
    rw [value?, hoption]
    rfl
  obtain ⟨c', hmakes', hsame⟩ := hchange moved .home sound_moved hothers
  refine ⟨sound_mixed, ⟨c, c', hmakes, hmakes', ?_, ?_, ?_, hsame .bodies nofun fun _ => ?_,
    hsame .data nofun fun _ => ?_⟩, hfile mixedEntries readable_mixedEntries rfl _⟩
  · rw [hdirectory, directory, value?_mixed]
    decide +kernel
  · rw [hdirectory, directory, value?_mixed]
    decide +kernel
  · rw [hdirectory, directory, value?_mixed, home, value?_mixed]
    decide +kernel
  · rw [value?_mixed]
    decide +kernel
  · rw [value?_mixed]
    decide +kernel

end Sources

end LoadScenario
