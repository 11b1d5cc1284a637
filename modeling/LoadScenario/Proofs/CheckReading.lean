import LoadScenario.Proofs.SelfDelimiting
import LoadScenario.Scenario.Block

/-!
# Reading the checks of a block

A block lists the checks of a request as expressions, and from the expressions the checks can be
told again. Each expression begins with a keyword of its own, no keyword is the beginning of
another, and what stands in an expression is literals, which show where they end, or numbers, behind
which there is a comma or a parenthesis. Which expressions are written says what is checked, because
the order of the four sorts is fixed and each can be picked from the list by its keyword.
-/

namespace LoadScenario.Scenario

/-- An expression of a check group. -/
inductive Expression where
  | statusIs (code : Nat)
  | statusIn (codes : List Nat)
  | statusNot (code : Nat)
  | matching (pattern : String)
  | keeping (name value : String)
  | keepingAt (name path : String)

/-- The words that expressions begin with. -/
inductive Keyword where
  | statusIs
  | statusIn
  | statusNot
  | regex
  | transform
  | jsonPath
  deriving DecidableEq

def Keyword.text : Keyword → String
  | statusIs => "status.is("
  | statusIn => "status.in("
  | statusNot => "status.not("
  | regex => "regex("
  | transform => "status.transform(string => "
  | jsonPath => "jsonPath("

namespace Expression

def keyword : Expression → Keyword
  | statusIs _ => .statusIs
  | statusIn _ => .statusIn
  | statusNot _ => .statusNot
  | matching _ => .regex
  | keeping _ _ => .transform
  | keepingAt _ _ => .jsonPath

/-- What stands behind the keyword. -/
def rest : Expression → String
  | statusIs code | statusNot code => toString code ++ ")"
  | statusIn codes => commaList (codes.map toString) ++ ")"
  | matching pattern => literal pattern ++ ").exists"
  | keeping name value => literal value ++ (").saveAs(" ++ (literal name ++ ")"))
  | keepingAt name path => literal ("$." ++ path) ++ (").saveAs(" ++ (literal name ++ ")"))

def text (e : Expression) : String := e.keyword.text ++ e.rest

/-- The expression that keeps a value. -/
def ofCapture : Capture → Expression
  | .literal name value => keeping name value
  | .json name path => keepingAt name path

/-- The expression of the right status codes. -/
def ofStatus : List Nat → List Expression
  | [] => []
  | [code] => [statusIs code]
  | codes => [statusIn codes]

/-- The expressions of checks. -/
def ofChecks (c : Checks) : List Expression :=
  ofStatus c.status ++ c.notStatus.map statusNot ++ c.bodyHas.map matching ++
    c.captures.map ofCapture

end Expression

theorem statusChecks_eq (codes : List Nat) :
    statusChecks codes = (Expression.ofStatus codes).map Expression.text := by
  match codes with
  | [] => rfl
  | [_] | _ :: _ :: _ => exact congrArg (fun s => [s]) (String.append_assoc ..)

theorem captureCheck_eq (capture : Capture) :
    captureCheck capture = (Expression.ofCapture capture).text := by
  cases capture with
  | literal name value =>
      show "status.transform(string => " ++ literal value ++ ").saveAs(" ++ literal name ++ ")" =
        "status.transform(string => " ++ (literal value ++ (").saveAs(" ++ (literal name ++ ")")))
      simp only [String.append_assoc]
  | json name path =>
      show "jsonPath(" ++ literal ("$." ++ path) ++ ").saveAs(" ++ literal name ++ ")" =
        "jsonPath(" ++ (literal ("$." ++ path) ++ (").saveAs(" ++ (literal name ++ ")")))
      simp only [String.append_assoc]

theorem checkCalls_eq (c : Checks) :
    checkCalls c = (Expression.ofChecks c).map Expression.text := by
  have hnotStatus : c.notStatus.map (fun code => "status.not(" ++ toString code ++ ")") =
      (c.notStatus.map Expression.statusNot).map Expression.text := by
    rw [List.map_map]
    exact List.map_congr_left fun _ _ => String.append_assoc ..
  have hbodyHas : c.bodyHas.map (fun pattern => "regex(" ++ literal pattern ++ ").exists") =
      (c.bodyHas.map Expression.matching).map Expression.text := by
    rw [List.map_map]
    exact List.map_congr_left fun _ _ => String.append_assoc ..
  have hcaptures : c.captures.map captureCheck =
      (c.captures.map Expression.ofCapture).map Expression.text := by
    rw [List.map_map]
    exact List.map_congr_left fun _ _ => captureCheck_eq _
  rw [checkCalls, statusChecks_eq, hnotStatus, hbodyHas, hcaptures, Expression.ofChecks,
    List.map_append, List.map_append, List.map_append]

/-! ## What the expressions say -/

namespace Expression

def statusCodes : Expression → List Nat
  | statusIs code => [code]
  | statusIn codes => codes
  | _ => []

def notStatus? : Expression → Option Nat
  | statusNot code => some code
  | _ => none

def pattern? : Expression → Option String
  | matching pattern => some pattern
  | _ => none

def capture? : Expression → Option Capture
  | keeping name value => some (.literal name value)
  | keepingAt name path => some (.json name path)
  | _ => none

/-- The checks that some expressions stand for. -/
def checksOf (es : List Expression) : Checks :=
  ⟨es.flatMap statusCodes, es.filterMap notStatus?, es.filterMap pattern?, es.filterMap capture?⟩

/-- The checks of both. -/
def joined (c c' : Checks) : Checks :=
  ⟨c.status ++ c'.status, c.notStatus ++ c'.notStatus, c.bodyHas ++ c'.bodyHas,
    c.captures ++ c'.captures⟩

theorem checksOf_append (es es' : List Expression) :
    checksOf (es ++ es') = joined (checksOf es) (checksOf es') := by
  simp only [checksOf, joined, List.flatMap_append, List.filterMap_append]

theorem checksOf_ofStatus (codes : List Nat) : checksOf (ofStatus codes) = ⟨codes, [], [], []⟩ := by
  match codes with
  | [] | [_] => rfl
  | code :: code' :: rest =>
      show Checks.mk ([statusIn (code :: code' :: rest)].flatMap statusCodes) [] [] [] = _
      rw [List.flatMap_singleton, statusCodes]

/-- Expressions of one sort stand for checks of one sort. -/
theorem checksOf_map {α : Type} {g : α → Expression} (sort : List α → Checks)
    (hnil : sort [] = .none) (hcons : ∀ a l, sort (a :: l) = joined (checksOf [g a]) (sort l))
    (l : List α) : checksOf (l.map g) = sort l := by
  induction l with
  | nil => exact hnil.symm
  | cons a l ih => rw [List.map_cons, ← List.singleton_append, checksOf_append, ih, hcons]

theorem checksOf_statusNot (codes : List Nat) :
    checksOf (codes.map statusNot) = ⟨[], codes, [], []⟩ :=
  checksOf_map (fun codes => ⟨[], codes, [], []⟩) rfl (fun _ _ => rfl) codes

theorem checksOf_matching (patterns : List String) :
    checksOf (patterns.map matching) = ⟨[], [], patterns, []⟩ :=
  checksOf_map (fun patterns => ⟨[], [], patterns, []⟩) rfl (fun _ _ => rfl) patterns

theorem checksOf_ofCapture (captures : List Capture) :
    checksOf (captures.map ofCapture) = ⟨[], [], [], captures⟩ :=
  checksOf_map (fun captures => ⟨[], [], [], captures⟩) rfl
    (fun capture _ => by cases capture <;> rfl) captures

theorem checksOf_ofChecks (c : Checks) : checksOf (ofChecks c) = c := by
  rw [ofChecks, checksOf_append, checksOf_append, checksOf_append, checksOf_ofStatus,
    checksOf_statusNot, checksOf_matching, checksOf_ofCapture]
  simp only [joined, List.append_nil, List.nil_append]

theorem ofChecks_injective : Function.Injective ofChecks := by
  intro c c' h
  rw [← checksOf_ofChecks c, h, checksOf_ofChecks]

end Expression

/-! ## Reading numbers -/

theorem commaList_cons_cons (s s' : String) (l : List String) :
    commaList (s :: s' :: l) = s ++ ", " ++ commaList (s' :: l) :=
  String.intercalate_cons_cons

/-- What stands behind the first of some numbers: a comma and the others, or the parenthesis. -/
def behindNumber (x : List Char) : List Nat → List Char
  | [] => ')' :: x
  | codes => ',' :: ' ' :: ((commaList (codes.map toString)).toList ++ ')' :: x)

theorem commaList_numbers (n : Nat) (codes : List Nat) (x : List Char) :
    (commaList ((n :: codes).map toString)).toList ++ ')' :: x =
      (toString n).toList ++ behindNumber x codes := by
  cases codes with
  | nil => rfl
  | cons m codes =>
      rw [List.map_cons, List.map_cons, commaList_cons_cons, behindNumber, List.map_cons,
        String.toList_append, String.toList_append, List.append_assoc, List.append_assoc]
      · rfl
      · exact nofun

theorem behindNumber_head (x : List Char) (codes : List Nat) :
    ∀ c ∈ (behindNumber x codes).head?, c.isDigit = false := by
  rintro c hc
  cases codes <;> cases hc <;> decide

theorem numbers_append_inj {codes codes' : List Nat} {x y : List Char}
    (h : (commaList (codes.map toString)).toList ++ ')' :: x =
      (commaList (codes'.map toString)).toList ++ ')' :: y) : codes = codes' ∧ x = y := by
  induction codes generalizing codes' with
  | nil =>
      cases codes' with
      | nil => exact ⟨rfl, List.tail_eq_of_cons_eq h⟩
      | cons m codes' =>
          rw [commaList_numbers] at h
          exact absurd h (cons_ne_number_append (by decide) _ _ _)
  | cons n codes ih =>
      cases codes' with
      | nil =>
          rw [commaList_numbers] at h
          exact absurd h.symm (cons_ne_number_append (by decide) _ _ _)
      | cons m codes' =>
          rw [commaList_numbers, commaList_numbers] at h
          obtain ⟨rfl, hrest⟩ := number_append_inj (behindNumber_head _ _) (behindNumber_head _ _) h
          cases codes with
          | nil =>
              cases codes' with
              | nil => exact ⟨rfl, List.tail_eq_of_cons_eq hrest⟩
              | cons _ _ => exact absurd (List.head_eq_of_cons_eq hrest) (by decide)
          | cons _ _ =>
              cases codes' with
              | nil => exact absurd (List.head_eq_of_cons_eq hrest) (by decide)
              | cons _ _ =>
                  obtain ⟨hcodes, hxy⟩ :=
                    ih (List.tail_eq_of_cons_eq (List.tail_eq_of_cons_eq hrest))
                  exact ⟨congrArg _ hcodes, hxy⟩

/-! ## Reading an expression -/

theorem Keyword.eq_of_prefix {k k' : Keyword} (h : k.text.toList <+: k'.text.toList) : k = k' := by
  revert h
  cases k <;> cases k' <;> first | exact fun _ => rfl | decide +kernel

namespace Expression

theorem text_toList (e : Expression) : e.text.toList = e.keyword.text.toList ++ e.rest.toList :=
  String.toList_append

/-- A value and the name under which it is kept. -/
theorem kept_selfDelimiting : SelfDelimiting fun p : String × String =>
    (literal p.1 ++ (").saveAs(" ++ (literal p.2 ++ ")"))).toList := by
  have hname := (literal_selfDelimiting.append ")".toList).prepend ").saveAs(".toList
  have hpair := literal_selfDelimiting.pair hname
  simp only [String.toList_append]
  exact hpair

theorem rest_toList_inj {e e' : Expression} {x y : List Char} (hkeyword : e.keyword = e'.keyword)
    (h : e.rest.toList ++ x = e'.rest.toList ++ y) : e = e' ∧ x = y := by
  cases e <;> cases e' <;> cases hkeyword
  case statusIs.statusIs.refl | statusNot.statusNot.refl =>
    simp only [rest, String.toList_append, List.append_assoc] at h
    obtain ⟨rfl, hxy⟩ := number_append_inj (by simp) (by simp) h
    exact ⟨rfl, List.append_cancel_left hxy⟩
  case statusIn.statusIn.refl =>
    simp only [rest, String.toList_append, List.append_assoc] at h
    obtain ⟨rfl, hxy⟩ := numbers_append_inj h
    exact ⟨rfl, hxy⟩
  case matching.matching.refl pattern pattern' =>
    simp only [rest, String.toList_append] at h
    obtain ⟨rfl, hxy⟩ := literal_selfDelimiting.append ").exists".toList _ _ x y h
    exact ⟨rfl, hxy⟩
  case keeping.keeping.refl name value name' value' =>
    obtain ⟨hkept, hxy⟩ := kept_selfDelimiting (value, name) (value', name') x y h
    cases hkept
    exact ⟨rfl, hxy⟩
  case keepingAt.keepingAt.refl name path name' path' =>
    obtain ⟨hkept, hxy⟩ := kept_selfDelimiting ("$." ++ path, name) ("$." ++ path', name') x y h
    obtain ⟨hpath, rfl⟩ := Prod.mk.inj hkept
    obtain rfl := (String.append_right_inj "$.").mp hpath
    exact ⟨rfl, hxy⟩

theorem text_selfDelimiting : SelfDelimiting fun e => (text e).toList := by
  simp only [text_toList]
  exact SelfDelimiting.keyword (fun k : Keyword => k.text.toList)
    (fun _ _ => Keyword.eq_of_prefix) fun _ _ _ _ => rest_toList_inj

end Expression

end LoadScenario.Scenario
