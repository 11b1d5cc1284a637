import LoadScenario.Proofs.CheckReading
import Mathlib.Data.List.Forall2

/-!
# What a scenario says about its requests can be read from it

The blocks of a scenario tell the requests apart in all that a scenario says of them. Between the
line of its method and the parenthesis that closes it a block holds clauses, for the authentication,
each header, the body and the checks. A clause begins with the white space of its depth, a dot and a
word of its own, and the closing parenthesis stands two blanks further to the left, so no text in a
request, whatever it looks like, is taken for a clause, an end or the next block.

Two things are not in a block: what the file of a body is to hold, and where the letters of a method
end if it is not made of letters alone.
-/

namespace LoadScenario.Scenario

/-- What a block says behind the line of the method. -/
inductive Clause where
  | auth (a : Auth)
  | header (key value : String)
  | body (filename : String)
  | checks (first : Expression) (others : List Expression)

/-- The words that clauses begin with. -/
inductive Clause.Kind where
  | basicAuth
  | digestAuth
  | header
  | body
  | check
  deriving DecidableEq

def Clause.Kind.word : Clause.Kind → String
  | basicAuth => "basicAuth("
  | digestAuth => "digestAuth("
  | header => "header("
  | body => "body(RawFileBody("
  | check => "check(\n"

namespace Clause

variable (simulation : String) (depth : Nat)

/-- The lines of a clause. -/
def lines : Clause → List String
  | auth a => [indent (depth + 1) ++ call a.scheme.builder [literal a.user, literal a.password]]
  | header key value => [indent (depth + 1) ++ call "header" [literal key, literal value]]
  | body filename =>
    [indent (depth + 1) ++
      call "body" ["RawFileBody(" ++ literal (simulation ++ "/" ++ filename) ++ ")"]]
  | checks first others =>
    [indent (depth + 1) ++ ".check(",
      ",\n".intercalate ((first :: others).map (indent (depth + 2) ++ ·.text)),
      indent (depth + 1) ++ ")"]

def kind : Clause → Clause.Kind
  | auth ⟨.basic, _, _⟩ => .basicAuth
  | auth ⟨.digest, _, _⟩ => .digestAuth
  | header _ _ => .header
  | body _ => .body
  | checks _ _ => .check

/-- What stands behind the word. -/
def rest : Clause → List Char
  | auth a =>
    (literal a.user).toList ++ (", ".toList ++ ((literal a.password).toList ++ ")\n".toList))
  | header key value =>
    (literal key).toList ++ (", ".toList ++ ((literal value).toList ++ ")\n".toList))
  | body filename => (literal (simulation ++ "/" ++ filename)).toList ++ "))\n".toList
  | checks first others =>
    (indent (depth + 2)).toList ++ (first.text.toList ++
      (others.flatMap (fun e => ",\n".toList ++ ((indent (depth + 2)).toList ++ e.text.toList)) ++
        ("\n".toList ++ ((indent (depth + 1)).toList ++ ")\n".toList))))

/-- A clause as it stands in a block. -/
def text (c : Clause) : List Char :=
  (indent (depth + 1)).toList ++ (".".toList ++ (c.kind.word.toList ++ c.rest simulation depth))

end Clause

/-- Lines, each with its end. -/
def ended (ls : List String) : List Char := ls.flatMap fun line => line.toList ++ ['\n']

theorem ended_append (ls ls' : List String) : ended (ls ++ ls') = ended ls ++ ended ls' :=
  List.flatMap_append

theorem call_one_toList (method a : String) :
    (call method [a]).toList =
      ".".toList ++ (method.toList ++ ("(".toList ++ (a.toList ++ ")".toList))) := by
  rw [call, commaList, String.intercalate_singleton]
  simp only [String.toList_append, List.append_assoc]

theorem call_two_toList (method a b : String) :
    (call method [a, b]).toList =
      ".".toList ++ (method.toList ++ ("(".toList ++ (a.toList ++ (", ".toList ++
        (b.toList ++ ")".toList))))) := by
  rw [call, commaList_cons_cons, commaList, String.intercalate_singleton]
  simp only [String.toList_append, List.append_assoc]

theorem intercalate_toList (separator s : String) (l : List String) :
    (separator.intercalate (s :: l)).toList =
      s.toList ++ l.flatMap fun t => separator.toList ++ t.toList := by
  induction l generalizing s with
  | nil => rw [String.intercalate_singleton, List.flatMap_nil, List.append_nil]
  | cons t l ih =>
      rw [String.intercalate_cons_cons, String.toList_append, String.toList_append, ih,
        List.flatMap_cons]
      simp only [List.append_assoc]

theorem intercalate_ended (s : String) (ls : List String) :
    ("\n".intercalate (s :: ls) ++ "\n").toList = ended (s :: ls) := by
  induction ls generalizing s with
  | nil =>
      rw [String.intercalate_singleton, String.toList_append, ended, List.flatMap_singleton]
      simp only [String.reduceToList]
  | cons s' ls ih =>
      have hsplit : "\n".intercalate (s :: s' :: ls) ++ "\n" =
          s ++ ("\n" ++ ("\n".intercalate (s' :: ls) ++ "\n")) := by
        simp only [String.intercalate_cons_cons, String.append_assoc]
      rw [hsplit, String.toList_append, String.toList_append, ih]
      simp only [ended, List.flatMap_cons, List.append_assoc, String.reduceToList]

theorem ended_lines (simulation : String) (depth : Nat) (c : Clause) :
    ended (c.lines simulation depth) = c.text simulation depth := by
  match c with
  | .auth ⟨.basic, _, _⟩ | .auth ⟨.digest, _, _⟩ | .header _ _ | .body _ | .checks _ _ =>
      simp only [ended, Clause.lines, Clause.text, Clause.kind, Clause.Kind.word, Clause.rest,
        AuthScheme.builder, call_one_toList, call_two_toList, intercalate_toList, List.map_cons,
        List.flatMap_map, List.flatMap_cons, List.flatMap_nil, String.toList_append,
        String.reduceToList, List.append_assoc, List.cons_append, List.nil_append]

/-- The clause of the checks, if there are any. -/
def Clause.ofExpressions : List Expression → List Clause
  | [] => []
  | first :: others => [.checks first others]

/-- The clauses of a request. -/
def clauses (r : Request) : List Clause :=
  r.auth.toList.map .auth ++ r.headers.entries.map (fun (key, value) => .header key value) ++
    r.body.toList.map (fun b => .body b.filename) ++
    Clause.ofExpressions (Expression.ofChecks r.checks)

theorem checkLines_eq (simulation : String) (depth : Nat) (c : Checks) :
    checkLines depth c =
      (Clause.ofExpressions (Expression.ofChecks c)).flatMap (Clause.lines simulation depth) := by
  rw [checkLines, checkCalls_eq]
  cases Expression.ofChecks c with
  | nil => rfl
  | cons first others =>
      rw [Clause.ofExpressions, List.flatMap_singleton, Clause.lines]
      show [_, ",\n".intercalate (((first :: others).map _).map _), _] = _
      rw [List.map_map]
      rfl

theorem requestLines_eq (simulation : String) (depth : Nat) (r : Request) :
    requestLines simulation depth r =
      [indent depth ++ ".exec(http(" ++ literal r.name ++ ")",
        indent (depth + 1) ++ call r.method [literal r.url]] ++
      (clauses r).flatMap (Clause.lines simulation depth) ++ [indent depth ++ ")"] := by
  have hlines : ∀ {α : Type} (l : List α) (g : α → Clause) (line : α → String),
      (∀ a, (g a).lines simulation depth = [line a]) →
        (l.map g).flatMap (Clause.lines simulation depth) = l.map line := by
    intro α l g line hline
    rw [List.flatMap_map, List.map_eq_flatMap]
    exact congrArg (l.flatMap ·) (funext hline)
  rw [requestLines, clauses, checkLines_eq simulation, List.flatMap_append, List.flatMap_append,
    List.flatMap_append, hlines r.auth.toList _ _ fun _ => rfl,
    hlines r.headers.entries _ _ fun _ => rfl, hlines r.body.toList _ _ fun _ => rfl]
  simp only [List.append_assoc]
  rfl

/-- A block, taken apart. -/
theorem block_toList (simulation : String) (depth : Nat) (r : Request) :
    (block simulation depth r).toList =
      (indent depth).toList ++ (".exec(http(".toList ++ ((literal r.name).toList ++
        (")\n".toList ++ ((indent (depth + 1)).toList ++ (".".toList ++ (r.method.toList ++
          ("(".toList ++ ((literal r.url).toList ++ (")\n".toList ++
            ((clauses r).flatMap (Clause.text simulation depth) ++
              ((indent depth).toList ++ ")\n".toList))))))))))) := by
  rw [block, requestLines_eq, List.append_assoc, List.cons_append, intercalate_ended,
    ← List.cons_append, ← List.append_assoc, ended_append, ended_append]
  have hclauses : ended ((clauses r).flatMap (Clause.lines simulation depth)) =
      (clauses r).flatMap (Clause.text simulation depth) := by
    rw [ended, List.flatMap_assoc]
    exact congrArg (List.flatMap · _) (funext (ended_lines simulation depth))
  rw [hclauses]
  simp only [ended, call_one_toList, List.flatMap_cons, List.flatMap_nil, String.toList_append,
    String.reduceToList, List.append_assoc, List.cons_append, List.nil_append]

/-! ## Reading a clause -/

theorem Clause.Kind.eq_of_prefix {k k' : Clause.Kind} (h : k.word.toList <+: k'.word.toList) :
    k = k' := by
  revert h
  cases k <;> cases k' <;> first | exact fun _ => rfl | decide +kernel

/-- Two literals as the arguments of a call. -/
theorem literals_selfDelimiting : SelfDelimiting fun p : String × String =>
    (literal p.1).toList ++ (", ".toList ++ ((literal p.2).toList ++ ")\n".toList)) := by
  have hsecond := (literal_selfDelimiting.append ")\n".toList).prepend ", ".toList
  have hpair := literal_selfDelimiting.pair hsecond
  exact hpair

/-- Expressions at the line ends of a group. -/
theorem expressions_selfDelimiting (depth : Nat) :
    SelfDelimiting fun p : Expression × List Expression =>
      p.1.text.toList ++
        (p.2.flatMap (fun e => ",\n".toList ++ ((indent (depth + 2)).toList ++ e.text.toList)) ++
          ("\n".toList ++ ((indent (depth + 1)).toList ++ ")\n".toList))) := by
  have hother := (Expression.text_selfDelimiting.prepend (indent (depth + 2)).toList).prepend
    ",\n".toList
  have hothers := hother.list
    (t := "\n".toList ++ ((indent (depth + 1)).toList ++ ")\n".toList)) ?_
  · exact Expression.text_selfDelimiting.pair hothers
  · intro e x y h
    exact absurd (List.head_eq_of_cons_eq h) (by decide)

namespace Clause

variable {simulation : String} {depth : Nat}

theorem rest_append_inj {c c' : Clause} {x y : List Char} (hkind : c.kind = c'.kind)
    (h : c.rest simulation depth ++ x = c'.rest simulation depth ++ y) : c = c' ∧ x = y := by
  rcases c with ⟨_ | _, user, password⟩ | ⟨key, value⟩ | filename | ⟨first, others⟩ <;>
    rcases c' with ⟨_ | _, user', password'⟩ | ⟨key', value'⟩ | filename' | ⟨first', others'⟩ <;>
      cases hkind
  iterate 2
    obtain ⟨hpair, hxy⟩ := literals_selfDelimiting (user, password) (user', password') x y h
    cases hpair
    exact ⟨rfl, hxy⟩
  · obtain ⟨hpair, hxy⟩ := literals_selfDelimiting (key, value) (key', value') x y h
    cases hpair
    exact ⟨rfl, hxy⟩
  · rw [rest, rest, List.append_assoc, List.append_assoc] at h
    obtain ⟨hresource, hxy⟩ := literal_selfDelimiting _ _ _ _ h
    obtain rfl := (String.append_right_inj (simulation ++ "/")).mp hresource
    exact ⟨rfl, List.append_cancel_left hxy⟩
  · have hgroup := (expressions_selfDelimiting depth).prepend (indent (depth + 2)).toList
    obtain ⟨hpair, hxy⟩ := hgroup (first, others) (first', others') x y h
    cases hpair
    exact ⟨rfl, hxy⟩

theorem text_selfDelimiting : SelfDelimiting (Clause.text simulation depth) := by
  have hrest : SelfDelimiting fun c : Clause => c.kind.word.toList ++ c.rest simulation depth :=
    SelfDelimiting.keyword (fun k : Clause.Kind => k.word.toList)
      (fun _ _ => Clause.Kind.eq_of_prefix) fun _ _ _ _ => rest_append_inj
  exact (hrest.prepend ".".toList).prepend _

end Clause

/-! ## What the clauses say -/

namespace Clause

def auth? : Clause → Option Auth
  | auth a => some a
  | _ => none

def header? : Clause → Option (String × String)
  | header key value => some (key, value)
  | _ => none

def filename? : Clause → Option String
  | body filename => some filename
  | _ => none

def expressions : Clause → List Expression
  | checks first others => first :: others
  | _ => []

end Clause

/-- Two requests of which a scenario says the same. -/
structure Agree (r r' : Request) : Prop where
  name : r.name = r'.name
  method : r.method = r'.method
  url : r.url = r'.url
  auth : r.auth = r'.auth
  headers : r.headers.entries = r'.headers.entries
  body : r.body.map (·.filename) = r'.body.map (·.filename)
  checks : r.checks = r'.checks

theorem expressions_ofExpressions (es : List Expression) :
    (Clause.ofExpressions es).flatMap Clause.expressions = es := by
  cases es with
  | nil => rfl
  | cons first others => rw [Clause.ofExpressions, List.flatMap_singleton, Clause.expressions]

theorem filterMap_ofExpressions {α : Type} {f : Clause → Option α}
    (hf : ∀ first others, f (.checks first others) = none) (es : List Expression) :
    (Clause.ofExpressions es).filterMap f = [] := by
  cases es with
  | nil => rfl
  | cons first others =>
      rw [Clause.ofExpressions, List.filterMap_cons_none (hf first others), List.filterMap_nil]

theorem auth?_clauses (r : Request) : (clauses r).filterMap Clause.auth? = r.auth.toList := by
  simp only [clauses, List.filterMap_append, List.filterMap_map,
    filterMap_ofExpressions (f := Clause.auth?) fun _ _ => rfl]
  simp [Function.comp_def, Clause.auth?]

theorem header?_clauses (r : Request) :
    (clauses r).filterMap Clause.header? = r.headers.entries := by
  simp only [clauses, List.filterMap_append, List.filterMap_map,
    filterMap_ofExpressions (f := Clause.header?) fun _ _ => rfl]
  simp [Function.comp_def, Clause.header?]

theorem filename?_clauses (r : Request) :
    (clauses r).filterMap Clause.filename? = (r.body.map (·.filename)).toList := by
  simp only [clauses, List.filterMap_append, List.filterMap_map,
    filterMap_ofExpressions (f := Clause.filename?) fun _ _ => rfl]
  cases r.body <;> simp [Function.comp_def, Clause.filename?]

theorem expressions_clauses (r : Request) :
    (clauses r).flatMap Clause.expressions = Expression.ofChecks r.checks := by
  have hnone : ∀ {α : Type} (l : List α) (g : α → Clause), (∀ a, (g a).expressions = []) →
      (l.map g).flatMap Clause.expressions = [] := by
    intro α l g hg
    rw [List.flatMap_map]
    exact List.flatMap_eq_nil_iff.mpr fun a _ => hg a
  rw [clauses, List.flatMap_append, List.flatMap_append, List.flatMap_append,
    hnone _ _ fun _ => rfl, hnone _ _ fun _ => rfl, hnone _ _ fun _ => rfl,
    expressions_ofExpressions]
  rfl

theorem eq_of_toList_eq {α : Type} {o o' : Option α} (h : o.toList = o'.toList) : o = o' := by
  rw [← Option.head?_toList (o := o), h, Option.head?_toList]

theorem Agree.of_clauses {r r' : Request} (hname : r.name = r'.name)
    (hmethod : r.method = r'.method)
    (hurl : r.url = r'.url) (h : clauses r = clauses r') : Agree r r' where
  name := hname
  method := hmethod
  url := hurl
  auth := eq_of_toList_eq (by rw [← auth?_clauses, h, auth?_clauses])
  headers := by rw [← header?_clauses, h, header?_clauses]
  body := eq_of_toList_eq (by rw [← filename?_clauses, h, filename?_clauses])
  checks := Expression.ofChecks_injective (by rw [← expressions_clauses, h, expressions_clauses])

theorem Agree.clauses_eq {r r' : Request} (h : Agree r r') : clauses r = clauses r' := by
  have hbody : ∀ b : Option Body, b.toList.map (fun b => Clause.body b.filename) =
      (b.map (·.filename)).toList.map Clause.body := by
    intro b
    cases b <;> rfl
  rw [clauses, clauses, hbody, hbody, h.auth, h.headers, h.body, h.checks]

theorem Agree.block_eq {r r' : Request} (h : Agree r r') (simulation : String) (depth : Nat) :
    block simulation depth r = block simulation depth r' := by
  rw [block, block, requestLines_eq, requestLines_eq, h.name, h.method, h.url, h.clauses_eq]

/-! ## Reading a block -/

/-- The method of a request is made of letters. -/
def Lettered (r : Request) : Prop := ∀ c ∈ r.method.toList, c.isAlpha

variable (simulation : String) (depth : Nat)

/-- The clauses of a block end at the parenthesis that closes it. -/
theorem clauses_selfDelimiting : SelfDelimiting fun cs : List Clause =>
    cs.flatMap (Clause.text simulation depth) ++ ((indent depth).toList ++ ")\n".toList) := by
  refine Clause.text_selfDelimiting.list ?_
  have hindent : (indent (depth + 1)).toList = (indent depth).toList ++ "  ".toList := by
    rw [indent, indent, String.toList_ofList, String.toList_ofList, Nat.mul_succ,
      List.replicate_add]
    rfl
  intro c x y h
  rw [Clause.text, hindent] at h
  simp only [List.append_assoc] at h
  exact absurd (List.head_eq_of_cons_eq (List.append_cancel_left h)) (by decide)

theorem block_ne_nil (r : Request) : (block simulation depth r).toList ≠ [] := by
  rw [block_toList]
  simp only [ne_eq, List.append_eq_nil_iff, not_and]
  exact fun _ hnil => absurd hnil (by decide)

variable {simulation depth}

theorem block_append_inj {r r' : Request} {x y : List Char} (hr : Lettered r) (hr' : Lettered r')
    (h : (block simulation depth r).toList ++ x = (block simulation depth r').toList ++ y) :
    Agree r r' ∧ x = y := by
  rw [block_toList, block_toList] at h
  simp only [List.append_assoc, List.append_cancel_left_eq] at h
  obtain ⟨hname, h⟩ := literal_selfDelimiting _ _ _ _ h
  simp only [List.append_cancel_left_eq] at h
  -- The parenthesis behind the method is no letter.
  obtain ⟨hmethod, h⟩ := word_append_inj hr hr' (by simp) (by simp) h
  obtain ⟨hurl, h⟩ := literal_selfDelimiting _ _ _ _ (List.append_cancel_left h)
  have h := List.append_cancel_left h
  obtain ⟨hclauses, hxy⟩ := clauses_selfDelimiting simulation depth (clauses r) (clauses r') x y
    (by simp only [List.append_assoc]; exact h)
  exact ⟨.of_clauses hname (String.toList_injective hmethod) hurl hclauses, hxy⟩

/-- Two lists of requests have the same blocks just if they are of the same length and a scenario
says the same of the requests at each place. -/
theorem blocks_eq_iff (simulation : String) (depth : Nat) (rs rs' : List Request)
    (hrs : ∀ r ∈ rs, Lettered r) (hrs' : ∀ r ∈ rs', Lettered r) :
    blocks simulation depth rs = blocks simulation depth rs' ↔ List.Forall₂ Agree rs rs' := by
  rw [← String.toList_inj, blocks, blocks, String.toList_join, String.toList_join]
  constructor
  · intro h
    induction rs generalizing rs' with
    | nil =>
        cases rs' with
        | nil => exact .nil
        | cons r' rs' =>
            rw [List.map_cons, List.flatMap_cons] at h
            exact absurd (List.append_eq_nil_iff.mp h.symm).1 (block_ne_nil _ _ r')
    | cons r rs ih =>
        cases rs' with
        | nil =>
            rw [List.map_cons, List.flatMap_cons] at h
            exact absurd (List.append_eq_nil_iff.mp h).1 (block_ne_nil _ _ r)
        | cons r' rs' =>
            rw [List.map_cons, List.map_cons, List.flatMap_cons, List.flatMap_cons] at h
            obtain ⟨hagree, hrest⟩ := block_append_inj (hrs r List.mem_cons_self)
              (hrs' r' List.mem_cons_self) h
            exact .cons hagree (ih rs' (fun r hr => hrs r (List.mem_cons_of_mem _ hr))
              (fun r hr => hrs' r (List.mem_cons_of_mem _ hr)) hrest)
  · intro h
    clear hrs hrs'
    induction h with
    | nil => rfl
    | cons hagree _ ih =>
        rw [List.map_cons, List.map_cons, List.flatMap_cons, List.flatMap_cons, ih,
          hagree.block_eq]

/-- A request with an address that looks like the beginning of its next line. -/
def disguised : Request :=
  ⟨"Find", "GET", "/a\")\n    .header(\"Accept\", \"text", none, .empty, none, .none⟩

/-- A request with a header. -/
def undisguised : Request :=
  ⟨"Find", "GET", "/a", none, .ofList [("Accept", "text")], none, .none⟩

/-- A request with a body whose file holds some text. -/
def posting (content : String) : Request :=
  ⟨"Send", "POST", "/a", none, .empty, some ⟨"a.json", some content⟩, ⟨[200, 201], [], [], []⟩⟩

theorem blocks_disguised_and_posting :
    blocks "Orders" 2 [disguised, posting "1"] ≠ blocks "Orders" 2 [undisguised, posting "1"] ∧
      blocks "Orders" 2 [undisguised, posting "1"] =
        blocks "Orders" 2 [undisguised, posting "2"] := by
  have hget : ∀ c ∈ "GET".toList, c.isAlpha := List.all_eq_true.mp (by decide)
  have hpost : ∀ c ∈ "POST".toList, c.isAlpha := List.all_eq_true.mp (by decide)
  have hdisguised : Lettered disguised := hget
  have hundisguised : Lettered undisguised := hget
  have hposting : ∀ content, Lettered (posting content) := fun _ => hpost
  refine ⟨fun h => ?_, ?_⟩
  · have hagree := (blocks_eq_iff "Orders" 2 [disguised, posting "1"] [undisguised, posting "1"]
      (by simp [hdisguised, hposting]) (by simp [hundisguised, hposting])).mp h
    cases hagree with
    | cons hfirst _ => exact absurd hfirst.url (by decide)
  · refine (blocks_eq_iff "Orders" 2 [undisguised, posting "1"] [undisguised, posting "2"]
      (by simp [hundisguised, hposting]) (by simp [hundisguised, hposting])).mpr ?_
    exact .cons ⟨rfl, rfl, rfl, rfl, rfl, rfl, rfl⟩ (.cons ⟨rfl, rfl, rfl, rfl, rfl, rfl, rfl⟩ .nil)

end LoadScenario.Scenario
