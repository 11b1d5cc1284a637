import LoadScenario.Proofs.HeaderBlocks

/-!
# The header that names the file of a body

A request that sends a file as it is takes the name of the file from its disposition header. The key
of that header counts in any case, so there may be several, and it may be given more than once. The
first one in the block decides which key it is, and the last one with that key what the header says.

The name is looked for among the headers of the finished request. By then keys have been translated
and those that carry credentials may be gone, but neither makes a difference to disposition headers.
What is read is the translated value, and of a value whose name has no brace before it the name is
read as it is written.
-/

namespace LoadScenario

open Text

theorem isDisposition_translate (key : String) :
    isDisposition (translate key) = isDisposition key :=
  decide_eq_decide.mpr (foldCase_translate_eq_iff (by decide) (by decide))

theorem translate_of_isDisposition {key : String} (h : isDisposition key) :
    translate key = key := by
  rcases translate_eq_self_or key with hsame | ⟨hbrace, -⟩
  · exact hsame
  · exact absurd (of_decide_eq_true h) (foldCase_ne hbrace (by decide))

theorem translate_eq_iff_of_isDisposition {key other : String} (h : isDisposition key) :
    translate other = translate key ↔ other = key := by
  refine ⟨fun heq => ?_, congrArg translate⟩
  have hother : isDisposition other := by
    rw [← isDisposition_translate, heq, isDisposition_translate]
    exact h
  rwa [translate_of_isDisposition h, translate_of_isDisposition hother] at heq

/-- No header is one of disposition and carries credentials. -/
theorem isAuthorization_of_isDisposition {key : String} (h : isDisposition key) :
    isAuthorization key = false := by
  rw [isAuthorization, of_decide_eq_true h]
  decide

theorem find?_disposition_headersOf (block : String) (authenticates : Bool) :
    ((headersOf block authenticates).entries.find? fun e => isDisposition e.1) =
      (headersOf block false).entries.find? fun e => isDisposition e.1 := by
  cases authenticates with
  | false => rfl
  | true =>
      rw [entries_headersOf_true, List.find?_filter]
      congr 1
      funext e
      cases hkey : isDisposition e.1 with
      | false => simp
      | true => simp [isAuthorization_of_isDisposition hkey]

namespace RequestRecord

/-- What the first disposition header of a request says, before placeholders are translated. A key
that is given twice makes one header, with the value that comes last. -/
def disposition? (r : RequestRecord) : Option String :=
  ((headerLines r.headers).find? fun header => isDisposition header.1).bind fun first =>
    ((headerLines r.headers).filter fun header => header.1 = first.1).getLast?.map Prod.snd

theorem find?_headerMap (r : RequestRecord) :
    (r.headerMap.entries.find? fun e => isDisposition e.1).map Prod.snd =
      r.disposition?.map translate := by
  have hkeys : (fun e : String × String => isDisposition e.1) ∘ translatedHeader =
      fun header => isDisposition header.1 := by
    funext header
    rw [Function.comp_apply, translatedHeader, isDisposition_translate]
  rw [headerMap, find?_disposition_headersOf, headersOf_false, OrderedMap.find?_ofList,
    List.find?_map, hkeys, disposition?]
  cases hfirst : (headerLines r.headers).find? fun header => isDisposition header.1 with
  | none => rfl
  | some first =>
      have hdisposition : isDisposition first.1 := by
        simpa using List.find?_some hfirst
      have hsame :
          (fun e : String × String => decide (e.1 = translate first.1)) ∘ translatedHeader =
          fun header => decide (header.1 = first.1) := by
        funext header
        rw [Function.comp_apply, translatedHeader]
        simp only [translate_eq_iff_of_isDisposition hdisposition]
      rw [Option.map_some, Option.bind_some, Option.bind_some, translatedHeader, List.filter_map,
        hsame, List.getLast?_map]
      simp only [Option.map_map]
      congr 1

/-- The body of a request that sends a file as it is. -/
theorem body_of_disposition {r : RequestRecord} {value : String}
    (hmode : r.bodyMode = some "binary") (h : r.disposition? = some value) :
    r.request.body = some ⟨(dispositionFilename? (translate value)).getD unnamedBody, none⟩ := by
  have hname : filenameFromHeaders? r.headerMap =
      ((r.headerMap.entries.find? fun e => isDisposition e.1).map Prod.snd).bind
        dispositionFilename? := by
    rw [Option.bind_map]
    rfl
  rw [find?_headerMap, h, Option.map_some, Option.bind_some] at hname
  show r.body? = _
  rw [body?_binary hmode, hname]

end RequestRecord

end LoadScenario
