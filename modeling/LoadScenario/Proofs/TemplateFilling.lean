import LoadScenario.Proofs.LexicalBlocks
import LoadScenario.Proofs.OutputNames
import LoadScenario.Proofs.TextSearch
import Mathlib.Data.List.Infix

/-!
# Filling a template at once

A template is filled in three passes, and each pass runs over what the ones before have put in. So
the name could bring a token of the feeder, and the feed step one of the requests. It does not come
to that: a name and a feed step have no brace in them, and a pass goes over everything in which its
token cannot begin. The requests may hold any text, but they are put in last.

So for a template that is made of texts and tokens the three passes come to one: each token is
replaced on its own, whatever stands in its place (`fill_template`). A text of the template must not
hold two opening braces, nor end with one, since it could make up a token with what comes behind.
-/

namespace LoadScenario

open Text

namespace Text

/-! ## Passing over a text -/

/-- A word begins nowhere in a text, whatever comes behind the text. -/
def PassesOver (w cs : List Char) : Prop :=
  ∀ s, s ≠ [] → s <:+ cs → ∀ rest, expect w (s ++ rest) = none

variable {w r cs rest : List Char} {c : Char}

theorem PassesOver.head (h : PassesOver w (c :: cs)) (rest : List Char) :
    expect w (c :: (cs ++ rest)) = none :=
  h (c :: cs) (List.cons_ne_nil c cs) (List.suffix_refl _) rest

theorem PassesOver.tail (h : PassesOver w (c :: cs)) : PassesOver w cs :=
  fun s hs hsuffix => h s hs (hsuffix.trans (List.suffix_cons c cs))

theorem replaceWord_append (h : PassesOver w cs) (r rest : List Char) :
    replaceWord w r (cs ++ rest) = cs ++ replaceWord w r rest := by
  induction cs with
  | nil => rfl
  | cons c cs ih =>
      have hrest := ih h.tail
      simp only [replaceWord] at hrest
      simp [replaceWord, replaceWordFrom, h.head rest, hrest]

theorem replaceFirst_append (h : PassesOver w cs) (r rest : List Char) :
    replaceFirst w r (cs ++ rest) = cs ++ replaceFirst w r rest := by
  induction cs with
  | nil => rfl
  | cons c cs ih => simp [replaceFirst, h.head rest, ih h.tail]

theorem replaceWordFrom_length (w r cs rest : List Char) :
    replaceWordFrom w r cs.length (cs ++ rest) = replaceWordFrom w r 0 rest := by
  induction cs with
  | nil => rfl
  | cons c cs ih => exact ih

theorem replaceWord_found (hw : w ≠ []) (r rest : List Char) :
    replaceWord w r (w ++ rest) = r ++ replaceWord w r rest := by
  obtain ⟨c, cs, rfl⟩ := List.exists_cons_of_ne_nil hw
  have hfound : expect (c :: cs) (c :: (cs ++ rest)) = some rest := expect_eq_some_iff.mpr rfl
  simp [replaceWord, replaceWordFrom, hfound, replaceWordFrom_length]

theorem replaceFirst_found (hw : w ≠ []) (r rest : List Char) :
    replaceFirst w r (w ++ rest) = r ++ rest := by
  obtain ⟨c, cs, rfl⟩ := List.exists_cons_of_ne_nil hw
  have hfound : expect (c :: cs) (c :: (cs ++ rest)) = some rest := expect_eq_some_iff.mpr rfl
  simp [replaceFirst, hfound]

end Text

namespace Scenario

/-! ## Tokens and texts -/

inductive Token where
  | name
  | feeder
  | requests
  deriving DecidableEq

/-- How a token stands in a template. -/
def Token.source : Token → List Char
  | name => nameToken
  | feeder => feederToken
  | requests => requestsToken

/-- A part of a template. -/
inductive Segment where
  | text (s : String)
  | token (t : Token)

def Segment.source : Segment → List Char
  | text s => s.toList
  | token t => t.source

/-- No token can begin in a text, whatever comes behind it. -/
def Closed (cs : List Char) : Prop :=
  ¬ ['\x7b', '\x7b'] <:+: cs ∧ cs.getLast? ≠ some '\x7b'

def Segment.Clear : Segment → Prop
  | text s => Closed s.toList
  | token _ => True

/-- The template that segments make. -/
def templateOf (segments : List Segment) : String :=
  String.ofList (segments.flatMap Segment.source)

theorem closed_of_not_mem {cs : List Char} (h : '\x7b' ∉ cs) : Closed cs :=
  ⟨fun hpair => h (hpair.subset List.mem_cons_self), fun hlast => h (List.mem_of_getLast? hlast)⟩

theorem Token.source_eq (t : Token) : ∃ w, t.source = '\x7b' :: '\x7b' :: w := by
  cases t <;> exact ⟨_, rfl⟩

theorem Token.source_ne_nil (t : Token) : t.source ≠ [] := by
  obtain ⟨w, hw⟩ := t.source_eq
  rw [hw]
  exact List.cons_ne_nil _ _

theorem Closed.passesOver {cs : List Char} (h : Closed cs) (t : Token) :
    PassesOver t.source cs := by
  obtain ⟨w, hw⟩ := t.source_eq
  intro s hs hsuffix rest
  rw [hw]
  match s with
  | [c] =>
      have hlast : cs.getLast? = some c := by
        obtain ⟨front, rfl⟩ := hsuffix
        exact List.getLast?_concat
      have hc : c ≠ '\x7b' := by
        rintro rfl
        exact h.2 hlast
      exact expect_cons_of_ne hc
  | c :: d :: s =>
      by_cases hc : c = '\x7b'
      · subst hc
        have hd : d ≠ '\x7b' := by
          rintro rfl
          exact h.1 ((List.prefix_append ['\x7b', '\x7b'] s).isInfix.trans hsuffix.isInfix)
        simp [expect, hd]
      · exact expect_cons_of_ne hc

/-- Two texts differ before either of them ends. -/
def differ : List Char → List Char → Bool
  | w :: ws, c :: cs => w != c || differ ws cs
  | _, _ => false

theorem expect_append_of_differ {w cs : List Char} (h : differ w cs) (rest : List Char) :
    expect w (cs ++ rest) = none := by
  fun_induction differ w cs with
  | case1 w ws c cs ih =>
      rw [List.cons_append, expect]
      split
      next heq => exact ih (by simpa [heq] using h)
      next => rfl
  | case2 => cases h

/-- In a token no other token begins. -/
theorem Token.passesOver {t u : Token} (h : t ≠ u) : PassesOver t.source u.source := by
  have htails : ∀ t u : Token, t ≠ u → ∀ s ∈ u.source.tails, s ≠ [] → differ t.source s := by
    intro t u hne
    cases t <;> cases u <;> first | exact absurd rfl hne | decide
  intro s hs hsuffix
  exact expect_append_of_differ (htails t u h s ((List.mem_tails s _).mpr hsuffix) hs)

/-! ## Filling -/

/-- The template that segments make, with each token replaced on its own: the name every time, and
the feed step and the requests as long as they have not been put in. -/
def filledAtOnce (name : List Char) :
    (feed requests : Option (List Char)) → List Segment → List Char
  | _, _, [] => []
  | feed, requests, .text s :: rest => s.toList ++ filledAtOnce name feed requests rest
  | feed, requests, .token .name :: rest => name ++ filledAtOnce name feed requests rest
  | feed, requests, .token .feeder :: rest =>
    feed.getD feederToken ++ filledAtOnce name none requests rest
  | feed, requests, .token .requests :: rest =>
    requests.getD requestsToken ++ filledAtOnce name feed none rest

/-- A pass over a text that puts something in, if there is something to put in. -/
def pass (t : Token) : Option (List Char) → List Char → List Char
  | none => id
  | some r => replaceFirst t.source r

theorem pass_append {t : Token} {cs : List Char} (h : PassesOver t.source cs)
    (o : Option (List Char)) (rest : List Char) : pass t o (cs ++ rest) = cs ++ pass t o rest := by
  cases o with
  | none => rfl
  | some r => exact replaceFirst_append h r rest

theorem pass_found (t : Token) (o : Option (List Char)) (rest : List Char) :
    pass t o (t.source ++ rest) = o.getD t.source ++ rest := by
  cases o with
  | none => rfl
  | some r => exact replaceFirst_found t.source_ne_nil r rest

variable {segments : List Segment} {name : List Char}

/-- The induction is on the segments. What is left to put in changes on the way, so the statement is
about any of it. -/
theorem passes_eq_filledAtOnce (hclear : ∀ x ∈ segments, x.Clear) (hname : Closed name)
    (feed : Option (List Char)) (hfeed : ∀ cs ∈ feed, Closed cs)
    (requests : Option (List Char)) :
    pass .requests requests (pass .feeder feed
        (replaceWord (Token.source .name) name (segments.flatMap Segment.source))) =
      filledAtOnce name feed requests segments := by
  induction segments generalizing feed requests with
  | nil => cases feed <;> cases requests <;> rfl
  | cons segment rest ih =>
      obtain ⟨hsegment, hrest⟩ := List.forall_mem_cons.mp hclear
      rw [List.flatMap_cons]
      match segment, hsegment with
      | .text s, hs =>
          rw [Segment.source, replaceWord_append (Closed.passesOver hs .name),
            pass_append (Closed.passesOver hs .feeder),
            pass_append (Closed.passesOver hs .requests), ih hrest feed hfeed, filledAtOnce]
      | .token .name, _ =>
          rw [Segment.source, replaceWord_found (Token.source_ne_nil .name),
            pass_append (hname.passesOver .feeder), pass_append (hname.passesOver .requests),
            ih hrest feed hfeed, filledAtOnce]
      | .token .feeder, _ =>
          have hover : PassesOver (Token.source .name) (Token.source .feeder) :=
            Token.passesOver (by decide)
          have hput : PassesOver (Token.source .requests) (feed.getD (Token.source .feeder)) := by
            cases feed with
            | none =>
                show PassesOver (Token.source .requests) (Token.source .feeder)
                exact Token.passesOver (by decide)
            | some cs => exact (hfeed cs rfl).passesOver .requests
          have hlater := ih hrest none nofun requests
          rw [Segment.source, replaceWord_append hover, pass_found, pass_append hput,
            filledAtOnce, ← hlater]
          rfl
      | .token .requests, _ =>
          have hover : PassesOver (Token.source .name) (Token.source .requests) :=
            Token.passesOver (by decide)
          have hover' : PassesOver (Token.source .feeder) (Token.source .requests) :=
            Token.passesOver (by decide)
          have hlater := ih hrest feed hfeed none
          rw [Segment.source, replaceWord_append hover, pass_append hover', pass_found,
            filledAtOnce, ← hlater]
          rfl

/-- The requests stand in a filled template as they are, if the template asks for them. -/
theorem infix_filledAtOnce (h : .token .requests ∈ segments) (feed : Option (List Char))
    (requests : List Char) : requests <:+: filledAtOnce name feed (some requests) segments := by
  induction segments generalizing feed with
  | nil => cases h
  | cons segment rest ih =>
      match segment with
      | .token .requests => exact (List.prefix_append _ _).isInfix
      | .text s =>
          have hrest := (List.mem_cons.mp h).resolve_left nofun
          exact (ih hrest feed).trans (List.suffix_append _ _).isInfix
      | .token .name =>
          have hrest := (List.mem_cons.mp h).resolve_left nofun
          exact (ih hrest feed).trans (List.suffix_append _ _).isInfix
      | .token .feeder =>
          have hrest := (List.mem_cons.mp h).resolve_left nofun
          exact (ih hrest none).trans (List.suffix_append _ _).isInfix

/-! ## The text of a scenario -/

theorem not_mem_literal {c : Char} (hslash : c ≠ '\\') (hquote : c ≠ '"') {s : String}
    (hs : c ∉ s.toList) : c ∉ (literal s).toList := by
  rw [literal_toList, List.mem_append, List.mem_append, List.mem_flatMap]
  rintro (hopen | ⟨d, hd, hchar⟩ | hclose)
  · exact hquote (List.mem_singleton.mp hopen)
  · rw [escapeChar] at hchar
    have hcd : c = d := by
      split at hchar
      · exact ((List.mem_cons.mp hchar).resolve_left hslash) |> List.mem_singleton.mp
      · exact List.mem_singleton.mp hchar
    exact hs (hcd ▸ hd)
  · exact hquote (List.mem_singleton.mp hclose)

/-- The file that the feed step names is called after the simulation. -/
theorem closed_feedLine {simulation : String} (h : IsWord simulation) (depth : Nat) :
    Closed (feedLine simulation depth).toList := by
  have hbrace : '\x7b' ∉ (simulation ++ ".json").toList := by
    rw [String.toList_append, List.mem_append, not_or]
    exact ⟨h.not_mem (by decide) (by decide), by decide⟩
  refine closed_of_not_mem ?_
  simp only [feedLine, String.toList_append, List.mem_append, not_or]
  exact ⟨⟨⟨not_mem_indent (by decide) depth, by decide⟩,
    not_mem_literal (by decide) (by decide) hbrace⟩, by decide⟩

end Scenario

open Scenario

/-- The feed step of a simulation; nothing without variables. -/
def Simulation.feedStep (simulation : String) (feeder : Feeder) : String :=
  if feeder.isEmpty then "" else feedLine simulation requestDepth

theorem Simulation.scenarioText_templateOf {segments : List Segment}
    (hclear : ∀ x ∈ segments, x.Clear) {simulation : String} (hsimulation : IsWord simulation)
    (feeder : Feeder) (rs : List Request) :
    scenarioText (templateOf segments) simulation feeder rs =
      String.ofList (filledAtOnce simulation.toList (some (feedStep simulation feeder).toList)
        (some (blocks simulation requestDepth rs).toList) segments) := by
  have hname : Closed simulation.toList :=
    closed_of_not_mem (hsimulation.not_mem (by decide) (by decide))
  have hfeed : Closed (feedStep simulation feeder).toList := by
    rw [feedStep]
    split
    · exact closed_of_not_mem (List.not_mem_nil)
    · exact closed_feedLine hsimulation requestDepth
  have hpasses := passes_eq_filledAtOnce hclear hname (some (feedStep simulation feeder).toList)
    (fun cs hcs => by obtain rfl := Option.some.inj hcs; exact hfeed)
    (some (blocks simulation requestDepth rs).toList)
  rw [← hpasses, scenarioText, fill, templateOf, String.toList_ofList]
  rfl

end LoadScenario
