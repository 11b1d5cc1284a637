import LoadScenario.Proofs.BlockReading
import LoadScenario.Proofs.SourceLiterals
import LoadScenario.Proofs.TextSearch
import LoadScenario.Request.Analysis

/-!
# When a block is source that can be read

The blocks of a scenario are put together from text that nobody has checked, and whether a reader of
source gets through such a block depends on two things only. Nothing escapes the end of a line, so
each text that stands between quotes has to be on one line. And the method stands outside of quotes
as it is, so it has to be an identifier. Everything else is escaped as it has to be, and the two
conditions are not only sufficient: a text with the end of a line in it, wherever it comes from,
makes a block that cannot be read.

What source takes for an identifier is left open here. All that matters of it is that an identifier
ends before a parenthesis, a quote or the end of a line.
-/

namespace LoadScenario.Scenario

open Text

/-! ## What is to be read -/

/-- What is taken for an identifier. -/
structure Lexicon where
  IsIdentifier : String → Prop
  clear : ∀ name, IsIdentifier name → ∀ c ∈ name.toList, c ≠ '(' ∧ c ≠ '"' ∧ endsLine c = false

def reservedWords : List String := [
  "abstract", "case", "catch", "class", "def", "do", "else", "extends", "false", "final", "finally",
  "for", "forSome", "if", "implicit", "import", "lazy", "macro", "match", "new", "null", "object",
  "override", "package", "private", "protected", "return", "sealed", "super", "this", "throw",
  "trait", "true", "try", "type", "val", "var", "while", "with", "yield", "_"]

def isLetter (c : Char) : Bool := c.isAlpha || c = '_' || c = '$'

/-- The identifiers of ASCII letters and digits. -/
def Lexicon.ascii : Lexicon where
  IsIdentifier name :=
    (name.toList.head?.any isLetter && name.toList.all (fun c => isLetter c || c.isDigit) &&
      !reservedWords.contains name) = true
  clear := by
    intro name hname c hc
    rw [Bool.and_eq_true, Bool.and_eq_true] at hname
    have hword := List.all_eq_true.mp hname.1.2 c hc
    refine ⟨?_, ?_, ?_⟩
    · rintro rfl
      exact absurd hword (by decide)
    · rintro rfl
      exact absurd hword (by decide)
    · rw [endsLine, Bool.or_eq_false_iff, decide_eq_false_iff_not, decide_eq_false_iff_not]
      constructor <;> rintro rfl <;> exact absurd hword (by decide)

instance (name : String) : Decidable (Lexicon.ascii.IsIdentifier name) :=
  inferInstanceAs (Decidable ((_ : Bool) = true))

/-- A line that calls a method of what stands before it: a dot, an identifier, and a literal between
parentheses. -/
def IsCall (x : Lexicon) (line : List Char) : Prop :=
  ∃ n name quoted value,
    line = List.replicate n ' ' ++ '.' :: (name.toList ++ '(' :: '"' :: quoted) ∧
      x.IsIdentifier name ∧ literalValue? quoted = some (value, [')'])

/-- A text that a reader of source gets through. -/
structure Lexical (x : Lexicon) (text : String) : Prop where
  /-- Each literal ends on the line on which it begins. -/
  literals : Place.outside.after? text.toList = some .outside
  /-- The second line calls a method. -/
  call : ∃ line, (lines text.toList)[1]? = some line ∧ IsCall x line

/-! ## What stands between quotes -/

def Expression.quotedTexts : Expression → List String
  | matching pattern => [pattern]
  | keeping name value => [value, name]
  | keepingAt name path => ["$." ++ path, name]
  | _ => []

def Clause.quotedTexts (simulation : String) : Clause → List String
  | auth a => [a.user, a.password]
  | header key value => [key, value]
  | body filename => [simulation ++ "/" ++ filename]
  | checks first others => (first :: others).flatMap Expression.quotedTexts

/-- The texts that a block quotes. -/
def quotedTexts (simulation : String) (r : Request) : List String :=
  r.name :: r.url :: (clauses r).flatMap (Clause.quotedTexts simulation)

theorem not_mem_number {c : Char} (hc : c.isDigit = false) (n : Nat) : c ∉ (toString n).toList := by
  intro h
  rw [isDigit_of_mem_number h] at hc
  cases hc

theorem not_mem_numbers {c : Char} (hc : c.isDigit = false) (hcomma : c ∉ ", ".toList)
    (codes : List Nat) : c ∉ (commaList (codes.map toString)).toList := by
  rw [commaList]
  cases codes with
  | nil => exact List.not_mem_nil
  | cons code codes =>
      rw [List.map_cons, intercalate_toList, List.mem_append, List.mem_flatMap]
      rintro (hfirst | ⟨s, hs, hother⟩)
      · exact not_mem_number hc code hfirst
      · obtain ⟨n, -, rfl⟩ := List.mem_map.mp hs
        rcases List.mem_append.mp hother with hseparator | hnumber
        · exact hcomma hseparator
        · exact not_mem_number hc n hnumber

theorem not_mem_indent {c : Char} (hc : c ≠ ' ') (depth : Nat) : c ∉ (indent depth).toList := by
  rw [indent, String.toList_ofList]
  exact fun h => hc (List.eq_of_mem_replicate h)

theorem Clear.indented {cs : List Char} {condition : Prop} (h : Clear cs condition) (depth : Nat) :
    Clear ((indent depth).toList ++ cs) condition :=
  h.prepend (not_mem_indent (by decide) depth)

theorem Clause.Kind.not_mem_word (k : Clause.Kind) : '"' ∉ k.word.toList := by
  cases k <;> decide

theorem clear_literals {between behind : List Char} (hbetween : '"' ∉ between)
    (hbehind : '"' ∉ behind) (s t : String) :
    Clear ((literal s).toList ++ (between ++ ((literal t).toList ++ behind)))
      (∀ u ∈ [s, t], OneLine u) := by
  have hsecond := ((clear_literal t).append (clear_of_not_mem hbehind)).prepend hbetween
  exact ((clear_literal s).append hsecond).congr (by simp)

/-- A text put together from literals and from text without quotes and ends of lines; the second
list holds what the literals are of. -/
inductive Quoting : List Char → List String → Prop
  | plain {cs : List Char} (hquote : '"' ∉ cs) (hline : '\n' ∉ cs) : Quoting cs []
  | literal (s : String) : Quoting (literal s).toList [s]
  | append {cs cs' : List Char} {ss ss' : List String} (h : Quoting cs ss) (h' : Quoting cs' ss') :
    Quoting (cs ++ cs') (ss ++ ss')

theorem Quoting.clear {cs : List Char} {ss : List String} (h : Quoting cs ss) :
    Clear cs (∀ s ∈ ss, OneLine s) := by
  induction h with
  | plain hquote _ => exact (clear_of_not_mem hquote).congr (by simp)
  | literal s => exact (clear_literal s).congr (by simp)
  | append _ _ ih ih' => exact (ih.append ih').congr List.forall_mem_append.symm

theorem Keyword.quoting (k : Keyword) : Quoting k.text.toList [] := by
  cases k <;> exact .plain (by decide) (by decide)

theorem Expression.quoting (e : Expression) : Quoting e.text.toList e.quotedTexts := by
  have hnumbers : ∀ {cs : List Char}, '"' ∉ cs → '\n' ∉ cs → Quoting (cs ++ ")".toList) [] :=
    fun hquote hline => .append (.plain hquote hline) (.plain (by decide) (by decide))
  have hkept : ∀ s t : String,
      Quoting (literal s ++ (").saveAs(" ++ (literal t ++ ")"))).toList [s, t] := by
    intro s t
    simp only [String.toList_append]
    exact (Quoting.literal s).append (.append (.plain (by decide) (by decide))
      (.append (.literal t) (.plain (by decide) (by decide))))
  have hrest : Quoting e.rest.toList e.quotedTexts := by
    cases e with
    | statusIs code | statusNot code =>
        rw [rest, String.toList_append]
        exact hnumbers (not_mem_number (by decide) code) (not_mem_number (by decide) code)
    | statusIn codes =>
        rw [rest, String.toList_append]
        exact hnumbers (not_mem_numbers (by decide) (by decide) codes)
          (not_mem_numbers (by decide) (by decide) codes)
    | matching pattern =>
        rw [rest, String.toList_append]
        exact .append (.literal pattern) (.plain (by decide) (by decide))
    | keeping name value => exact hkept value name
    | keepingAt name path => exact hkept ("$." ++ path) name
  rw [text_toList]
  exact e.keyword.quoting.append hrest

theorem Clause.clear_text (simulation : String) (depth : Nat) (c : Clause) :
    Clear (c.text simulation depth) (∀ s ∈ c.quotedTexts simulation, OneLine s) := by
  have hrest : Clear (c.rest simulation depth) (∀ s ∈ c.quotedTexts simulation, OneLine s) := by
    cases c with
    | auth a => exact clear_literals (by decide) (by decide) a.user a.password
    | header key value => exact clear_literals (by decide) (by decide) key value
    | body filename =>
        have hend : Clear "))\n".toList True := clear_of_not_mem (by decide)
        exact ((clear_literal (simulation ++ "/" ++ filename)).append hend).congr
          (by simp [quotedTexts])
    | checks first others =>
        have hother : ∀ e : Expression, Clear
            (",\n".toList ++ ((indent (depth + 2)).toList ++ e.text.toList))
            (∀ s ∈ e.quotedTexts, OneLine s) :=
          fun e => (e.quoting.clear.indented _).prepend (by decide)
        have hend : Clear ("\n".toList ++ ((indent (depth + 1)).toList ++ ")\n".toList)) True :=
          ((clear_of_not_mem (by decide)).indented _).prepend (by decide)
        have hall :=
          (first.quoting.clear.append ((clear_flatMap hother others).append hend)).indented
            (depth + 2)
        refine hall.congr ?_
        rw [and_true, quotedTexts, List.flatMap_cons, List.forall_mem_append,
          List.forall_mem_flatMap]
  rw [text]
  exact ((hrest.prepend c.kind.not_mem_word).prepend (by decide)).indented _

/-- If there is no quote in the method, a block is passed exactly if everything between quotes is on
one line. -/
theorem clear_block (simulation : String) (depth : Nat) {r : Request}
    (hmethod : '"' ∉ r.method.toList) :
    Clear (block simulation depth r).toList (∀ s ∈ quotedTexts simulation r, OneLine s) := by
  have hend : Clear ((indent depth).toList ++ ")\n".toList) True :=
    (clear_of_not_mem (by decide)).indented _
  have hclauses := (clear_flatMap (Clause.clear_text simulation depth) (clauses r)).append hend
  have hblock : Clear (block simulation depth r).toList (OneLine r.name ∧ OneLine r.url ∧
      (∀ c ∈ clauses r, ∀ s ∈ c.quotedTexts simulation, OneLine s) ∧ True) := by
    rw [block_toList]
    refine .indented (.prepend ((clear_literal r.name).append ?_) (by decide)) depth
    refine .prepend (.indented (.prepend ?_ (by decide)) (depth + 1)) (by decide)
    refine .prepend (.prepend ((clear_literal r.url).append ?_) (by decide)) hmethod
    exact hclauses.prepend (by decide)
  refine hblock.congr ?_
  rw [and_true, quotedTexts, List.forall_mem_cons, List.forall_mem_cons, List.forall_mem_flatMap]

/-! ## The second line -/

def nameLine (depth : Nat) (name : String) : List Char :=
  (indent depth).toList ++ (".exec(http(".toList ++ ((literal name).toList ++ [')']))

def methodLine (depth : Nat) (method url : String) : List Char :=
  (indent (depth + 1)).toList ++ '.' :: (method.toList ++ '(' :: ((literal url).toList ++ [')']))

/-- What a block holds behind the line of the method. -/
def behindMethod (simulation : String) (depth : Nat) (r : Request) : List Char :=
  (clauses r).flatMap (Clause.text simulation depth) ++ ((indent depth).toList ++ ")\n".toList)

theorem block_lines (simulation : String) (depth : Nat) (r : Request) :
    (block simulation depth r).toList = nameLine depth r.name ++
      '\n' :: (methodLine depth r.method r.url ++ '\n' :: behindMethod simulation depth r) := by
  rw [block_toList, nameLine, methodLine, behindMethod]
  simp only [String.reduceToList, List.append_assoc, List.cons_append, List.nil_append]

theorem not_mem_nameLine (depth : Nat) {name : String} (h : OneLine name) :
    '\n' ∉ nameLine depth name := by
  rw [nameLine, List.mem_append, List.mem_append, List.mem_append]
  rintro (hindent | hcall | hname | hclose)
  · exact not_mem_indent (by decide) _ hindent
  · exact absurd hcall (by decide)
  · exact h.not_mem_literal hname
  · exact absurd hclose (by decide)

theorem not_mem_methodLine (depth : Nat) {method url : String} (hmethod : '\n' ∉ method.toList)
    (hurl : OneLine url) : '\n' ∉ methodLine depth method url := by
  rw [methodLine, List.mem_append, List.mem_cons, List.mem_append, List.mem_cons, List.mem_append]
  rintro (hindent | hdot | hname | hopen | hliteral | hclose)
  · exact not_mem_indent (by decide) _ hindent
  · exact absurd hdot (by decide)
  · exact hmethod hname
  · exact absurd hopen (by decide)
  · exact hurl.not_mem_literal hliteral
  · exact absurd hclose (by decide)

variable {x : Lexicon} {method : String}

theorem methodLine_isCall (hmethod : x.IsIdentifier method) (depth : Nat) (url : String) :
    IsCall x (methodLine depth method url) := by
  refine ⟨2 * (depth + 1), method, url.toList.flatMap escapeChar ++ ['"', ')'], url.toList, ?_,
    hmethod, literalValue?_escaped _ _⟩
  rw [methodLine, indent, String.toList_ofList, literal_toList]
  simp only [List.append_assoc, List.cons_append, List.nil_append]

/-- A line that begins like the line of a method calls that method, if it calls any. -/
theorem IsCall.isIdentifier (hmethod : '(' ∉ method.toList) {depth : Nat} {rest : List Char}
    (h : IsCall x ((indent depth).toList ++ '.' :: (method.toList ++ '(' :: rest))) :
    x.IsIdentifier method := by
  obtain ⟨n, name, quoted, value, hline, hname, -⟩ := h
  rw [indent, String.toList_ofList] at hline
  have hblanks : ∀ k, ∀ c ∈ List.replicate k ' ', decide (c = ' ') = true :=
    fun k c hc => decide_eq_true (List.eq_of_mem_replicate hc)
  obtain ⟨-, hline⟩ := word_append_inj (p := (decide <| · = ' ')) (hblanks _) (hblanks _)
    (by simp) (by simp) hline
  -- Neither name has a parenthesis, so both end at the first one.
  obtain ⟨hsame, -⟩ := word_append_inj (p := (decide <| · ≠ '('))
    (fun c hc => decide_eq_true (by rintro rfl; exact hmethod hc))
    (fun c hc => decide_eq_true (x.clear name hname c hc).1) (by simp) (by simp)
    (List.tail_eq_of_cons_eq hline)
  rw [String.toList_injective hsame]
  exact hname

/-! ## Which blocks are lexical -/

variable {simulation : String} {depth : Nat} {r : Request}

theorem lexical_block (hmethod : x.IsIdentifier r.method)
    (hone : ∀ s ∈ quotedTexts simulation r, OneLine s) : Lexical x (block simulation depth r) := by
  have hclear := x.clear r.method hmethod
  have hquote : '"' ∉ r.method.toList := fun h => (hclear _ h).2.1 rfl
  have hbreak : '\n' ∉ r.method.toList := fun h => absurd (hclear _ h).2.2 (by decide)
  have hname : OneLine r.name := hone _ List.mem_cons_self
  have hurl : OneLine r.url := hone _ (List.mem_cons_of_mem _ List.mem_cons_self)
  have hblock := block_lines simulation depth r
  refine ⟨(clear_block simulation depth hquote).1 hone, _, ?_,
    methodLine_isCall hmethod depth r.url⟩
  rw [hblock, lines_append_newline, lines_append_newline,
    lines_of_not_mem (not_mem_nameLine depth hname),
    lines_of_not_mem (not_mem_methodLine depth hbreak hurl)]
  rfl

theorem Lexical.oneLine_name (h : Lexical x (block simulation depth r)) : OneLine r.name := by
  have hfront : '"' ∉ (indent depth).toList ++ ".exec(http(".toList := by
    rw [List.mem_append]
    exact fun h => h.elim (not_mem_indent (by decide) depth) (by decide)
  have hname := (clear_literal r.name).prepend hfront
  have hread := h.literals
  rw [block_toList, ← List.append_assoc, ← List.append_assoc] at hread
  exact hname.of_append hread

theorem Lexical.isIdentifier (h : Lexical x (block simulation depth r))
    (hopen : '(' ∉ r.method.toList) (hbreak : '\n' ∉ r.method.toList) :
    x.IsIdentifier r.method := by
  obtain ⟨line, hline, hcall⟩ := h.call
  have hblock := block_lines simulation depth r
  have hfront : '\n' ∉ (indent (depth + 1)).toList ++ '.' :: (r.method.toList ++ ['(']) := by
    rw [List.mem_append, List.mem_cons, List.mem_append]
    rintro (hindent | hdot | hmethod | hparenthesis)
    · exact not_mem_indent (by decide) _ hindent
    · exact absurd hdot (by decide)
    · exact hbreak hmethod
    · exact absurd hparenthesis (by decide)
  -- The address may end the line, but not before the parenthesis.
  obtain ⟨part, parts, hparts⟩ := splitOn_append_of_not_mem hfront
    ((literal r.url).toList ++ ')' :: '\n' :: behindMethod simulation depth r)
  rw [hblock, lines_append_newline, lines_of_not_mem (not_mem_nameLine depth h.oneLine_name),
    lines, methodLine] at hline
  simp only [List.append_assoc, List.cons_append, List.nil_append] at hline hparts
  rw [hparts] at hline
  cases hline
  exact hcall.isIdentifier hopen

end LoadScenario.Scenario

namespace LoadScenario.RequestRecord

open Scenario

/-- The block of a request can be read just if the method is an identifier and each text between
quotes is on one line, as long as the method neither ends its line nor opens a parenthesis. -/
theorem lexical_block_iff (x : Lexicon) (simulation : String) (depth : Nat) (r : RequestRecord)
    (hopen : '(' ∉ r.request.method.toList) (hbreak : '\n' ∉ r.request.method.toList) :
    Lexical x (block simulation depth r.request) ↔
      x.IsIdentifier r.request.method ∧ ∀ s ∈ quotedTexts simulation r.request, OneLine s := by
  constructor
  · intro h
    have hmethod := h.isIdentifier hopen hbreak
    have hquote : '"' ∉ r.request.method.toList := fun hc => (x.clear _ hmethod _ hc).2.1 rfl
    exact ⟨hmethod, (clear_block simulation depth hquote).after?_iff.mp h.literals⟩
  · rintro ⟨hmethod, hone⟩
    exact lexical_block hmethod hone

/-- A request with quotes and backslashes wherever they may be. -/
def quoting : RequestRecord where
  id := "1"
  name := "Say \"hi\" \\ now"
  method := "POST"
  url := "/a?b=\"c\\"
  headers := "X-Note: \"a\\b\"\r\nContent-Type: text/plain"
  bodyMode := some "raw"
  rawBody := some "two\nlines"
  helper := some "basicAuth"
  credentials := some ⟨"me", "\"\\"⟩
  tests := some "tests[\"has\"] = responseBody.has(\"\\\"\x7d\");"

theorem lexical_block_quoting :
    Lexical .ascii (block "Notes" 2 quoting.request) := by
  exact (lexical_block_iff .ascii "Notes" 2 quoting (by decide +kernel) (by decide +kernel)).mpr
    ⟨by decide +kernel, by decide +kernel⟩

def twoLined : RequestRecord := { quoting with name := "Find\nall" }

def dashed : RequestRecord := { quoting with method := "M-SEARCH" }

theorem not_lexical_twoLined :
    ¬ Lexical .ascii (block "Notes" 2 twoLined.request) ∧
      ¬ Lexical .ascii (block "Notes" 2 dashed.request) := by
  constructor
  · intro h
    exact absurd h.oneLine_name (by decide +kernel)
  · intro h
    exact absurd (h.isIdentifier (by decide +kernel) (by decide +kernel)) (by decide +kernel)

end LoadScenario.RequestRecord
