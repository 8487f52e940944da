import NodeFlow.Proofs.Script.Printed
import NodeFlow.Script.Result

/-! # Reading a script's result back

    What a script returned, that it returned nothing, and what it has thrown
    all come as one text from the program around it.  None is taken for
    another (`reads_back`): the mark of nothing is no JSON text, and the object
    that reports an error is sorted as an error whatever its detail is.  A
    value comes as the JSON text of a tree, and the result is what the value of
    this tree is sorted as.

    All that is asked of the evaluator is that it prints JSON where it prints a
    value; the one of this development does (`interpret_printsJson`).

    The numbers of the value are those that reading makes of its numerals.
    Reading may miss the nearest number in the last digit, so that a number
    that was returned need not be the one that arrives
    (`not_always_nearest`). -/

namespace NodeFlow

/-- A value other than `null` is something. -/
theorem Result.classify_eq_empty {v : Json} :
    Result.classify (some v) = .empty ↔ v = .null := by
  constructor
  · intro h
    cases v with
    | null => rfl
    | obj members =>
        simp only [classify, classifyObject] at h
        split at h
        · split at h <;> cases h
        split at h
        · cases h
        split at h <;> cases h
    | bool _ | number _ | str _ | arr _ => cases h
  · rintro rfl
    rfl

namespace Script

open Json (IsText QuoteWritten Tree)

/-! ## The mark -/

/-- The mark for nothing is no text of JSON: it cannot be read. -/
theorem not_isText_nothingMark : ¬ IsText nothingMark := by
  rintro ⟨t, ht⟩
  have hnone : Tree.ofText? nothingMark = none := by decide
  rw [Json.ofText?_of_written ht] at hnone
  cases hnone

/-- A text of JSON is never taken for nothing. -/
theorem resultOfAnswer_of_isText {text : String} (h : IsText text) :
    resultOfAnswer (.ok text) = resultOfText text := by
  have hne : text ≠ nothingMark := by
    rintro rfl
    exact not_isText_nothingMark h
  exact if_neg hne

/-- The value of what is written is sorted, unless it nests too deep. -/
theorem resultOfText_of_value {t : Tree} {text : String} {v : Json}
    (h : t.Written text.toList) (hv : t.value? Numeral.value? = some v)
    (hdepth : t.depth ≤ Json.deepest) :
    resultOfText text = Result.classify (some v) := by
  have hread : Json.read text = some v := by
    rw [Json.read_of_written h, if_pos hdepth, hv]
  rw [resultOfText, hread]

/-- What is written without a value, or too deep, is not taken in. -/
theorem resultOfText_of_invalid {t : Tree} {text : String}
    (h : t.Written text.toList)
    (hno : t.value? Numeral.value? = none ∨ Json.deepest < t.depth) :
    resultOfText text = .error invalidResult := by
  have hread : Json.read text = none := by
    rw [Json.read_of_written h]
    rcases hno with hno | hdeep
    · rw [hno, ite_self]
    · rw [if_neg (by omega)]
  rw [resultOfText, hread]

/-! ## Reports -/

/-- The tree of a report. -/
def reportTree (detail : Option String) : Tree :=
  .object [(some "error", .literal (some true)), (some "detail", .text detail)]

/-- A report is a text of JSON, with the tree of a report. -/
theorem written_reportText {detail : Option String} {units : List Nat}
    (h : QuoteWritten detail (Value.quotedUnits units).toList) :
    (reportTree detail).Written (reportText units).toList := by
  have hmembers := Json.MembersWritten.more
    (Json.quoteWritten_quoted "error") (.literal (some true))
    (.last (Json.quoteWritten_quoted "detail") (.text h))
  have htext : (reportText units).toList = '\x7b'
      :: (((Json.quoted "error").toList ++ ':' :: (['t', 'r', 'u', 'e'] ++ ','
        :: ((Json.quoted "detail").toList
          ++ ':' :: (Value.quotedUnits units).toList))) ++ ['\x7d']) := by
    rw [← Value.quotedUnits_units, ← Value.quotedUnits_units]
    simp [reportText, Value.plain, Value.json?, Value.membersJson]
  rw [htext]
  exact .object hmembers

/-- An object with a report is an error with its detail. -/
theorem classify_report (detail : String) :
    Result.classify (some (.ofTable (Json.tableOf
      [("error", .bool true), ("detail", .str detail)]))) = .error detail := by
  have hget : ∀ k, (Json.tableOf [("error", .bool true),
      ("detail", .str detail)]).get? k
        = Table.lookupEntry k
          [("detail", .str detail), ("error", .bool true)] :=
    fun k => Table.get?_ofList _ k
  simp [Json.ofTable, Result.classify, Result.classifyObject,
    Result.reportsError, Result.detailOf, Result.markKey, Table.contains,
    hget, Table.lookupEntry]

/-- A report is an error, with the detail that is reported if this is the
    text of any characters. -/
theorem resultOfText_report {detail : Option String} {units : List Nat}
    (h : QuoteWritten detail (Value.quotedUnits units).toList) :
    resultOfText (reportText units) = .error (detail.getD invalidResult) := by
  have hwritten := written_reportText h
  cases detail with
  | none => exact resultOfText_of_invalid hwritten (.inl rfl)
  | some s =>
      have hdepth : (reportTree (some s)).depth ≤ Json.deepest := by
        show 1 ≤ 127
        decide
      rw [resultOfText_of_value hwritten rfl hdepth]
      exact classify_report s

/-! ## Evaluators that print JSON -/

/-- Whether what a script came to is printed as JSON, if it is a value. -/
def Ending.Printed (e : Ending) : Prop :=
  ∀ text, e = .value (some text) → IsText text

/-- Whether an evaluator prints JSON where it prints a value. -/
def Evaluator.PrintsJson (evaluator : Evaluator) : Prop :=
  ∀ rounds code inputs e,
    evaluator rounds code inputs = some e → e.Printed

namespace Act

variable {α β : Type} {P : α → Prop}

/-- Whether something that ends ends with a value of this kind. -/
def Yields (P : α → Prop) (act : Act α) : Prop :=
  ∀ s a s', act s = .ok a s' → P a

/-- What is given back at once is of the kind that it is. -/
theorem yields_pure {a : α} (h : P a) : Yields P (pure a) := by
  rintro s _ _ ⟨⟩
  exact h

/-- What stops gives nothing back. -/
theorem yields_throw (e : Stop) : Yields P (throw e) := by
  rintro s _ _ ⟨⟩

/-- What ends with the second of two acts is of its kind. -/
theorem yields_bind {act : Act β} {f : β → Act α} (h : ∀ b, Yields P (f b)) :
    Yields P (act >>= f) := by
  intro s a s' heq
  change EStateM.bind act f s = _ at heq
  unfold EStateM.bind at heq
  split at heq
  · exact h _ _ _ _ heq
  · cases heq

/-- Whether an act ends or stops and something else is done, what comes of it
    is of the kind. -/
theorem yields_tryCatch {act : Act α} {f : Stop → Act α} (hact : Yields P act)
    (hf : ∀ e, Yields P (f e)) : Yields P (tryCatch act f) := by
  intro s a s' heq
  change EStateM.tryCatch act f s = _ at heq
  unfold EStateM.tryCatch at heq
  split at heq
  · exact hf _ _ _ _ heq
  · exact hact _ _ _ heq

end Act

/-- What a script returns is printed as JSON if it is printed at all. -/
theorem yields_endingOfReturned (v : Value) :
    (endingOfReturned v).Yields Ending.Printed := by
  have hvalue : ∀ w : Value, (Ending.value w.json?).Printed := by
    intro w text h
    exact Value.isText_of_json? w (Ending.value.inj h)
  unfold endingOfReturned
  split
  · exact Act.yields_pure (fun _ => nofun)
  · exact Act.yields_bind (fun w => Act.yields_pure (hvalue w))

/-- What a script throws is not printed as a value. -/
theorem yields_endingOfThrown (v : Value) :
    (endingOfThrown v).Yields Ending.Printed := by
  refine Act.yields_tryCatch ?_ (fun e => ?_)
  · exact Act.yields_bind (fun text => Act.yields_pure (fun _ => nofun))
  · cases e with
    | thrown w =>
        exact Act.yields_bind (fun text => Act.yields_pure (fun _ => nofun))
    | limit _ => exact Act.yields_throw _
    | endless => exact Act.yields_throw _

/-- The evaluator of this development prints JSON where it prints a value. -/
theorem interpret_printsJson : interpret.PrintsJson := by
  intro rounds code inputs e h
  have hending : (ending code (Value.ofJson (.ofTable inputs))).Yields
      Ending.Printed := by
    refine Act.yields_tryCatch ?_ (fun e => ?_)
    · exact Act.yields_bind yields_endingOfReturned
    · cases e with
      | thrown v => exact yields_endingOfThrown v
      | limit _ => exact Act.yields_throw _
      | endless => exact Act.yields_throw _
  unfold interpret at h
  split at h
  · cases h
    exact hending _ _ _ ‹_›
  · cases h
    exact fun _ => nofun
  · cases h
    exact fun _ => nofun
  · cases h

/-! ## Back from the answer -/

/-- Whether a result says what a script came to. -/
structure Ending.ReadBack (e : Ending) (r : Result) : Prop where
  /-- Nothing is nothing. -/
  nothing : e = .nothing → r = .empty
  /-- A value is sorted, whatever it is. -/
  value : ∀ (text : String) (t : Tree) (v : Json),
    e = .value (some text) → t.Written text.toList →
    t.value? Numeral.value? = some v → t.depth ≤ Json.deepest →
    r = Result.classify (some v)
  /-- What is no text of any characters, or nests too deep, is an error. -/
  invalid : ∀ (text : String) (t : Tree),
    e = .value (some text) → t.Written text.toList →
    t.value? Numeral.value? = none ∨ Json.deepest < t.depth →
    r = .error invalidResult
  /-- What JSON cannot express is an error that says so. -/
  inexpressible : e = .value none → r = .error notSerialisable
  /-- What is thrown is an error. -/
  thrown : ∀ units, e = .thrown units → ∃ detail, r = .error detail
  /-- The error has the text of what is thrown. -/
  thrownText : ∀ detail, e = .thrown (Text.units detail) → r = .error detail
  /-- What stops the program is an error with the same message. -/
  broken : ∀ message, e = .broken message → r = .error message
  /-- Only nothing is marked as nothing. -/
  marked : e.answer = .ok nothingMark ↔ e = .nothing
  /-- Only nothing and `null` come to nothing. -/
  empty : r = .empty ↔ e = .nothing ∨ e = .value (some "null")

/-- Every report is a text of JSON. -/
theorem isText_reportText (units : List Nat) : IsText (reportText units) := by
  obtain ⟨_, h⟩ := Value.exists_quoteWritten units
  exact ⟨_, written_reportText h⟩

/-- Every report is read as an error, with some detail. -/
theorem resultOfAnswer_report (units : List Nat) :
    ∃ detail, resultOfAnswer (.ok (reportText units)) = .error detail := by
  obtain ⟨_, h⟩ := Value.exists_quoteWritten units
  exact ⟨_, (resultOfAnswer_of_isText (isText_reportText units)).trans
    (resultOfText_report h)⟩

/-- A report of a text is read as an error with this detail. -/
theorem resultOfAnswer_report_units (detail : String) :
    resultOfAnswer (.ok (reportText (Text.units detail))) = .error detail := by
  have h := Json.quoteWritten_quoted detail
  rw [← Value.quotedUnits_units] at h
  rw [resultOfAnswer_of_isText (isText_reportText _), resultOfText_report h]
  rfl

/-- Of the JSON texts only `null` comes to nothing. -/
theorem resultOfText_eq_empty {text : String} (h : IsText text) :
    resultOfText text = .empty ↔ text = "null" := by
  have hnull : (Tree.literal none).Written "null".toList := .literal none
  constructor
  · obtain ⟨t, ht⟩ := h
    intro hempty
    by_cases hno : t.value? Numeral.value? = none ∨ Json.deepest < t.depth
    · rw [resultOfText_of_invalid ht hno] at hempty
      cases hempty
    · obtain ⟨hsome, hdepth⟩ := not_or.mp hno
      obtain ⟨v, hv⟩ := Option.ne_none_iff_exists'.mp hsome
      rw [resultOfText_of_value ht hv (by omega), Result.classify_eq_empty]
        at hempty
      subst hempty
      have htree : t = .literal none := by
        cases t with
        | literal b => cases b <;> simp_all [Tree.value?]
        | numeral _ | text _ | list _ | object _ =>
            simp [Tree.value?, Json.ofTable] at hv
      subst htree
      generalize hcs : text.toList = cs at ht
      cases ht
      exact String.toList_inj.mp hcs
  · rintro rfl
    rw [resultOfText_of_value hnull rfl (by decide)]
    rfl

/-- The mark for nothing is read as nothing. -/
theorem resultOfAnswer_mark : resultOfAnswer (.ok nothingMark) = .empty := by
  rw [resultOfAnswer, if_pos rfl]

/-- Only a script that gives nothing back answers with the mark. -/
theorem Ending.answer_eq_mark {e : Ending} (h : e.Printed) :
    e.answer = .ok nothingMark ↔ e = .nothing := by
  have hne : ∀ {text}, IsText text →
      (Except.ok text : Except String String) ≠ .ok nothingMark := by
    rintro _ htext ⟨⟩
    exact not_isText_nothingMark htext
  cases e with
  | nothing => exact ⟨fun _ => rfl, fun _ => rfl⟩
  | value json =>
      refine ⟨fun heq => ?_, nofun⟩
      cases json with
      | none => exact absurd heq (hne (isText_reportText _))
      | some text => exact absurd heq (hne (h text rfl))
  | thrown units =>
      exact ⟨fun heq => absurd heq (hne (isText_reportText units)), nofun⟩
  | broken _ => exact ⟨nofun, nofun⟩

/-- Only nothing and null are read as nothing. -/
theorem Ending.resultOfAnswer_eq_empty {e : Ending} (h : e.Printed) :
    resultOfAnswer e.answer = .empty
      ↔ e = .nothing ∨ e = .value (some "null") := by
  have hreport : ∀ units, resultOfAnswer (.ok (reportText units)) ≠ .empty := by
    intro units heq
    obtain ⟨_, herror⟩ := resultOfAnswer_report units
    rw [herror] at heq
    cases heq
  cases e with
  | nothing => exact ⟨fun _ => .inl rfl, fun _ => resultOfAnswer_mark⟩
  | value json =>
      cases json with
      | none => simpa [Ending.answer] using hreport _
      | some text =>
          simp [Ending.answer, resultOfAnswer_of_isText (h text rfl),
            resultOfText_eq_empty (h text rfl)]
  | thrown units => simpa [Ending.answer] using hreport units
  | broken _ => simp [Ending.answer, resultOfAnswer]

/-- What a script came to is what its answer is read back as. -/
theorem Ending.readBack_answer {e : Ending} (h : e.Printed) :
    e.ReadBack (resultOfAnswer e.answer) where
  nothing := by
    rintro rfl
    exact resultOfAnswer_mark
  value := by
    rintro text t v rfl ht hv hdepth
    exact (resultOfAnswer_of_isText ⟨t, ht⟩).trans
      (resultOfText_of_value ht hv hdepth)
  invalid := by
    rintro text t rfl ht hno
    exact (resultOfAnswer_of_isText ⟨t, ht⟩).trans
      (resultOfText_of_invalid ht hno)
  inexpressible := by
    rintro rfl
    exact resultOfAnswer_report_units notSerialisable
  thrown := by
    rintro units rfl
    exact resultOfAnswer_report units
  thrownText := by
    rintro detail rfl
    exact resultOfAnswer_report_units detail
  broken := by
    rintro message rfl
    rfl
  marked := answer_eq_mark h
  empty := resultOfAnswer_eq_empty h

/-- What a script came to is read back, whichever evaluator runs it. -/
theorem reads_back {evaluator : Evaluator} (hprints : evaluator.PrintsJson)
    {limits : Limits} (htime : limits.timeout ≠ 0) {code : String}
    {inputs : Table String Json} {e : Ending}
    (he : evaluator limits.rounds code inputs = some e) :
    ∃ r, runBy evaluator limits code inputs = .ok r ∧ e.ReadBack r := by
  refine ⟨resultOfAnswer e.answer, ?_, Ending.readBack_answer
    (hprints _ _ _ _ he)⟩
  rw [runBy, if_neg htime, he]

/-- A text that looks like the mark of nothing is a text. -/
theorem reads_back_mark :
    ∃ r, runBy interpret ⟨5000, 1000⟩ "return \"__UNDEFINED__\";" Table.empty
        = .ok r
      ∧ r = .single (.str nothingMark) := by
  have hread : ∃ r, runBy interpret ⟨5000, 1000⟩
      "return \"__UNDEFINED__\";" Table.empty = .ok r
      ∧ (Ending.value (some "\"__UNDEFINED__\"")).ReadBack r :=
    reads_back interpret_printsJson (by decide) (by decide +kernel)
  obtain ⟨r, hrun, hback⟩ := hread
  exact ⟨r, hrun, hback.value _ _ _ rfl
    (.text (Json.quoteWritten_quoted nothingMark)) rfl (by decide)⟩

/-! ## Numbers -/

/-- The number nearest to the one that a numeral names. -/
def nearest? (n : Numeral) : Option Number :=
  match n.value? with
  | some (.whole k) => some (.whole k)
  | _ =>
      let fraction := n.fraction.getD []
      let power : Int :=
        match n.power with
        | none => 0
        | some (minus, ds) =>
            if minus then -(Numeral.digitsValue ds : Int)
            else Numeral.digitsValue ds
      (Binary64.ofDecimal n.negative
        (Numeral.digitsValue (n.whole ++ fraction))
        (power - fraction.length)).map .real

/-- A number that a script returns need not be the one that arrives: reading
    rounds more than once. -/
theorem not_always_nearest :
    ¬ ∀ (limits : Limits) (code : String) (inputs : Table String Json)
        (text : String) (t : Tree) (v : Json),
      limits.timeout ≠ 0 →
      interpret limits.rounds code inputs = some (.value (some text)) →
      t.Written text.toList → t.value? nearest? = some v →
      t.depth ≤ Json.deepest →
      run limits code inputs = .ok (Result.classify (some v)) := by
  intro h
  have hreply := h ⟨5000, 1000⟩ "return 51.248178375505404;" Table.empty
    "51.248178375505404"
    (.numeral ⟨false, "51".toList, some "248178375505404".toList, none⟩)
    (.number (.real ⟨false, 7212539907354464, -47⟩)) (by decide)
    (by decide +kernel) (.numeral (by decide)) (by decide +kernel) (by decide)
  exact absurd (congrArg Except.toOption hreply) (by decide +kernel)

end Script
end NodeFlow
