import UeSim.Config.TruthPlan
import UeSim.Support.DelimitedText

/-!
# The file of fine-grained flows

`ParseFineGrainedTrafficConfig` reads a file of comma-separated lines.  A line starts with a
timestamp in the timestamped format and with the source XPU in the legacy format, and either
may have a destination port as its last field.  The format is told from the number of fields,
so a legacy line with a destination port, which has as many fields as a timestamped line
without one, is read with every value one place too far.  The lines of the other three formats
are read as they were written.

Numbers of the type `double` are a parameter: what is assumed of them is that a number that
has been written out is read back.
-/

namespace UeSim

/-! ## Values -/

/-- The characters of a written number. -/
def isNumeral (c : Char) : Bool :=
  c.isDigit ∨ c = '+' ∨ c = '-' ∨ c = '.' ∨ c = 'e'

/-- Numbers of the type `double`: how they are read, written and scaled. -/
structure Doubles where
  carrier : Type
  zero : carrier
  /-- `std::stod`; `none` if it throws. -/
  stod : List Char → Option carrier
  write : carrier → List Char
  /-- Division by `1e9`. -/
  seconds : carrier → carrier
  /-- Whether a number is below `0.0`. -/
  isNegative : carrier → Bool
  write_ne_nil : ∀ x, write x ≠ []
  isNumeral_write : ∀ x, ∀ c ∈ write x, isNumeral c = true
  stod_write : ∀ x, stod (write x) = some x
  seconds_nonneg : ∀ x, isNegative x = false → isNegative (seconds x) = false

/-- `FineGrainedTrafficFlow`, with its rate and its time. -/
structure TimedTrafficFlow (D : Doubles) extends FineGrainedTrafficFlow where
  vcId : UInt8
  dataRate : D.carrier
  startTime : D.carrier

/-- What the name of the file in the configuration stands for. -/
inductive FlowFile where
  | unnamed
  | unreadable
  | text (content : List Char)

variable {D : Doubles}

/-! ## Reading -/

/-- The blanks around a field. -/
def isBlank (c : Char) : Bool := c = ' ' ∨ c = '\t'

/-- Whether a line is empty, a comment or a header. -/
def skipsLine (line : List Char) : Bool :=
  line = [] || line.head? = some '#' ||
    (("sourceXpuId".toList <:+: line && "destXpuId".toList <:+: line) ||
      "timestamp".toList <:+: line)

/-- The fields of a line. -/
def lineTokens (line : List Char) : List (List Char) :=
  (getlines ',' line).map (trimmed isBlank)

/-- The fields of a flow from a first one on; `none` if one of them throws. -/
def parseFields (D : Doubles) (tokens : List (List Char)) (first : ℕ) (startTime : D.carrier) :
    Option (TimedTrafficFlow D) := do
  let field := fun i => tokens.getD (first + i) []
  let sourceXpuId ← stoul (field 0)
  let destXpuId ← stoul (field 1)
  let sueId ← stoul (field 2)
  let suePort ← stoul (field 3)
  let vcId ← stoul (field 4)
  let dataRate ← D.stod (field 5)
  let totalBytes ← stoul (field 6)
  let destPort ←
    if first + 8 ≤ tokens.length then (stoul (field 7)).map some else some none
  some
    { sourceXpuId := UInt32.ofNat sourceXpuId
      destXpuId := UInt32.ofNat destXpuId
      sueId := UInt32.ofNat sueId
      suePort := UInt32.ofNat suePort
      destPort := (destPort.map UInt32.ofNat).getD 0
      totalBytes := UInt32.ofNat totalBytes
      hasExplicitDestPort := destPort.isSome
      vcId := UInt8.ofNat vcId
      dataRate := dataRate
      startTime := startTime }

/-- The checks of the virtual channel and of the start time. -/
def TimedTrafficFlow.validated (flow : TimedTrafficFlow D) : TimedTrafficFlow D :=
  { flow with
    vcId := if flow.vcId > 3 then 0 else flow.vcId
    startTime := if D.isNegative flow.startTime then D.zero else flow.startTime }

/-- The flow of a line's fields, if there is one. -/
def parseTokens (D : Doubles) (tokens : List (List Char)) : Option (TimedTrafficFlow D) :=
  if tokens.length < 7 then none
  else if 8 ≤ tokens.length then do
    let timestampNs ← D.stod (tokens.getD 0 [])
    let flow ← parseFields D tokens 1 (D.seconds timestampNs)
    some flow.validated
  else do
    let flow ← parseFields D tokens 0 D.zero
    some flow.validated

/-- The flow of a line, if there is one. -/
def parseLine (D : Doubles) (line : List Char) : Option (TimedTrafficFlow D) :=
  if skipsLine line then none else parseTokens D (lineTokens line)

/-- `ParseFineGrainedTrafficConfig`; `none` if it ends the program. -/
def parseFineGrainedTrafficConfig (D : Doubles) (c : SueSimulationConfig) (file : FlowFile) :
    Option (List (TimedTrafficFlow D)) :=
  if c.traffic.enableFineGrainedMode = false then some []
  else match file with
    | .unnamed => some []
    | .unreadable => none
    | .text content => some ((getlines '\n' content).filterMap (parseLine D))

/-! ## Writing -/

/-- The two documented formats, each with or without a destination port. -/
inductive FlowFormat where
  | timestamped
  | legacy
  deriving DecidableEq

/-- A flow as it is configured: its timestamp is in nanoseconds. -/
structure FlowRecord (D : Doubles) where
  timestamp : D.carrier
  timestamp_nonneg : D.isNegative timestamp = false
  sourceXpuId : UInt32
  destXpuId : UInt32
  sueId : UInt32
  suePort : UInt32
  vcId : Fin 4
  dataRate : D.carrier
  totalBytes : UInt32
  destPort : Option UInt32

/-- Blanks that may stand on a side of a field. -/
structure Blanks where
  text : List Char
  blank : ∀ c ∈ text, isBlank c = true

/-- A line for a flow: its format, and the blanks around each field. -/
structure WrittenFlow (D : Doubles) where
  record : FlowRecord D
  format : FlowFormat
  left : ℕ → Blanks
  right : ℕ → Blanks

/-- The flow of a record. -/
def FlowRecord.flow (r : FlowRecord D) (format : FlowFormat) : TimedTrafficFlow D where
  sourceXpuId := r.sourceXpuId
  destXpuId := r.destXpuId
  sueId := r.sueId
  suePort := r.suePort
  destPort := r.destPort.getD 0
  totalBytes := r.totalBytes
  hasExplicitDestPort := r.destPort.isSome
  vcId := UInt8.ofNat r.vcId
  dataRate := r.dataRate
  startTime := match format with
    | .timestamped => D.seconds r.timestamp
    | .legacy => D.zero

/-- The fields of the legacy format. -/
def FlowRecord.legacyTexts (r : FlowRecord D) : List (List Char) :=
  [decimalText r.sourceXpuId.toNat, decimalText r.destXpuId.toNat, decimalText r.sueId.toNat,
    decimalText r.suePort.toNat, decimalText r.vcId, D.write r.dataRate,
    decimalText r.totalBytes.toNat] ++ (r.destPort.map fun port => decimalText port.toNat).toList

/-- The fields of a format. -/
def FlowRecord.texts (r : FlowRecord D) : FlowFormat → List (List Char)
  | .timestamped => D.write r.timestamp :: r.legacyTexts
  | .legacy => r.legacyTexts

namespace WrittenFlow

/-- The fields with the blanks around them. -/
def paddedTexts (w : WrittenFlow D) : List (List Char) :=
  (w.record.texts w.format).mapIdx fun i text => (w.left i).text ++ text ++ (w.right i).text

/-- The line. -/
def line (w : WrittenFlow D) : List Char := joined ',' w.paddedTexts

/-- The flow that the line is for. -/
def flow (w : WrittenFlow D) : TimedTrafficFlow D := w.record.flow w.format

/-- The legacy format with the optional field. -/
def LegacyWithPort (w : WrittenFlow D) : Prop :=
  w.format = .legacy ∧ w.record.destPort.isSome = true

end WrittenFlow

/-- A file with a line for each flow. -/
def flowFileText (flows : List (WrittenFlow D)) : List Char :=
  terminated '\n' (flows.map WrittenFlow.line)

/-! ## The fields come back -/

theorem isNumeral_of_isDigit {c : Char} (hc : c.isDigit = true) : isNumeral c = true := by
  simp [isNumeral, hc]

/-- A field is a number. -/
theorem FlowRecord.isNumeral_texts (r : FlowRecord D) (format : FlowFormat) :
    ∀ text ∈ r.texts format, text ≠ [] ∧ ∀ c ∈ text, isNumeral c = true := by
  have hdecimal : ∀ n, decimalText n ≠ [] ∧ ∀ c ∈ decimalText n, isNumeral c = true :=
    fun n => ⟨decimalText_ne_nil n,
      fun c hc => isNumeral_of_isDigit (isDigit_of_mem_decimalText hc)⟩
  have hdouble : ∀ x, D.write x ≠ [] ∧ ∀ c ∈ D.write x, isNumeral c = true :=
    fun x => ⟨D.write_ne_nil x, D.isNumeral_write x⟩
  have hlegacy : ∀ text ∈ r.legacyTexts, text ≠ [] ∧ ∀ c ∈ text, isNumeral c = true := by
    intro text htext
    simp only [legacyTexts, List.mem_append, List.mem_cons, List.not_mem_nil, or_false,
      Option.mem_toList, Option.map_eq_some_iff] at htext
    rcases htext with (rfl | rfl | rfl | rfl | rfl | rfl | rfl) | ⟨port, -, rfl⟩
    all_goals first | exact hdecimal _ | exact hdouble _
  intro text htext
  cases format with
  | legacy => exact hlegacy text htext
  | timestamped =>
      rcases List.mem_cons.mp htext with rfl | h
      · exact hdouble _
      · exact hlegacy text h

/-- Numbers have no blanks in them. -/
theorem isBlank_of_isNumeral {c : Char} (hc : isNumeral c = true) : isBlank c = false := by
  rw [← Bool.not_eq_true]
  intro hblank
  simp only [isBlank, decide_eq_true_eq] at hblank
  rcases hblank with rfl | rfl <;> exact absurd hc (by decide)

namespace WrittenFlow

/-- A padded field is not empty, and has numerals and blanks only. -/
theorem paddedTexts_chars (w : WrittenFlow D) :
    ∀ text ∈ w.paddedTexts,
      text ≠ [] ∧ ∀ c ∈ text, isNumeral c = true ∨ isBlank c = true := by
  intro text htext
  obtain ⟨i, hi, rfl⟩ := List.mem_mapIdx.mp htext
  obtain ⟨hne, hnumeral⟩ := w.record.isNumeral_texts w.format _ (List.getElem_mem hi)
  refine ⟨by simp [hne], ?_⟩
  intro c hc
  simp only [List.mem_append] at hc
  rcases hc with (hc | hc) | hc
  · exact Or.inr ((w.left i).blank c hc)
  · exact Or.inl (hnumeral c hc)
  · exact Or.inr ((w.right i).blank c hc)

/-- The characters of a line. -/
theorem line_chars (w : WrittenFlow D) {c : Char} (hc : c ∈ w.line) :
    c = ',' ∨ isNumeral c = true ∨ isBlank c = true := by
  rcases mem_joined hc with h | ⟨text, htext, hmem⟩
  · exact Or.inl h
  · exact Or.inr ((w.paddedTexts_chars text htext).2 c hmem)

/-- A character that is of none of the three kinds is not in a line. -/
theorem not_mem_line (w : WrittenFlow D) {c : Char} (hcomma : c ≠ ',')
    (hnumeral : isNumeral c = false) (hblank : isBlank c = false) : c ∉ w.line := by
  intro hc
  rcases w.line_chars hc with h | h | h
  · exact hcomma h
  · simp [h] at hnumeral
  · simp [h] at hblank

/-- The line is split into the fields that were written. -/
theorem lineTokens_line (w : WrittenFlow D) :
    lineTokens w.line = w.record.texts w.format := by
  have hcomma : ∀ text ∈ w.paddedTexts, ',' ∉ text := by
    intro text htext hmem
    rcases (w.paddedTexts_chars text htext).2 _ hmem with h | h <;> exact absurd h (by decide)
  rw [lineTokens, line, getlines_joined (fun text htext => (w.paddedTexts_chars text htext).1)
    hcomma, paddedTexts]
  apply List.ext_getElem
  · simp
  · intro i h₁ h₂
    obtain ⟨hne, hnumeral⟩ := w.record.isNumeral_texts w.format _ (List.getElem_mem h₂)
    simp only [List.getElem_map, List.getElem_mapIdx]
    exact trimmed_padded (w.left i).blank (w.right i).blank hne
      fun c hc => isBlank_of_isNumeral (hnumeral c hc)

/-- A line is neither empty nor a comment nor a header. -/
theorem skipsLine_line (w : WrittenFlow D) : skipsLine w.line = false := by
  have hne : w.line ≠ [] := by
    intro h
    have htokens := w.lineTokens_line
    rw [h] at htokens
    cases hformat : w.format <;>
      simp [hformat, FlowRecord.texts, FlowRecord.legacyTexts, lineTokens, getlines] at htokens
  have hhash : w.line.head? ≠ some '#' := fun h =>
    w.not_mem_line (by decide) (by decide) (by decide) (List.mem_of_head? h)
  have hsource : ¬ "sourceXpuId".toList <:+: w.line := fun h =>
    w.not_mem_line (c := 'X') (by decide) (by decide) (by decide) (h.subset (by decide))
  have htimestamp : ¬ "timestamp".toList <:+: w.line := fun h =>
    w.not_mem_line (c := 't') (by decide) (by decide) (by decide) (h.subset (by decide))
  simp only [skipsLine, hne, hhash, hsource, htimestamp, decide_false, Bool.false_and,
    Bool.or_false]

/-- Reading a line is reading its fields. -/
theorem parseLine_line (w : WrittenFlow D) :
    parseLine D w.line = parseTokens D (w.record.texts w.format) := by
  rw [parseLine, w.skipsLine_line, w.lineTokens_line]
  rfl

end WrittenFlow

/-! ## The values come back -/

/-- A 32-bit number is read back. -/
theorem stoul_uint32 (n : UInt32) : stoul (decimalText n.toNat) = some n.toNat :=
  stoul_decimalText (lt_trans n.toNat_lt (by decide))

/-- A virtual channel is read back. -/
theorem stoul_vcId (vc : Fin 4) : stoul (decimalText vc) = some (vc : ℕ) :=
  stoul_decimalText (lt_trans vc.isLt (by decide))

/-- The checks change nothing in a flow that has been configured. -/
theorem FlowRecord.validated_flow (r : FlowRecord D) (format : FlowFormat) :
    (r.flow format).validated = r.flow format := by
  have hbound : ∀ vc : Fin 4, ¬ UInt8.ofNat vc > 3 := by decide
  have hvc : ¬ (r.flow format).vcId > 3 := hbound r.vcId
  have hstart : (if D.isNegative (r.flow format).startTime then D.zero
      else (r.flow format).startTime) = (r.flow format).startTime := by
    cases format with
    | legacy => exact ite_self _
    | timestamped => simp [flow, D.seconds_nonneg _ r.timestamp_nonneg]
  rw [TimedTrafficFlow.validated, hstart, if_neg hvc]

/-- The fields of a record are read back wherever they start, if the number of fields is not
mistaken. -/
theorem FlowRecord.parseFields_texts (r : FlowRecord D) (format : FlowFormat)
    (before : List (List Char)) :
    parseFields D (before ++ r.legacyTexts) before.length (r.flow format).startTime =
      some (r.flow format) := by
  have hfield : ∀ i, (before ++ r.legacyTexts).getD (before.length + i) [] =
      r.legacyTexts.getD i [] := by
    intro i
    simp [List.getD_eq_getElem?_getD, List.getElem?_append_right]
  have hlength : before.length + 8 ≤ (before ++ r.legacyTexts).length ↔
      r.destPort.isSome = true := by
    cases hport : r.destPort <;> simp [legacyTexts, hport]
  unfold parseFields
  simp only [hfield, hlength]
  cases hport : r.destPort <;>
    simp [legacyTexts, hport, stoul_uint32, stoul_vcId, D.stod_write, flow]

namespace WrittenFlow

/-- A timestamped line is read as it was written. -/
theorem parseLine_timestamped (w : WrittenFlow D) (hformat : w.format = .timestamped) :
    parseLine D w.line = some w.flow := by
  have hlength : 8 ≤ (w.record.texts .timestamped).length := by
    simp [FlowRecord.texts, FlowRecord.legacyTexts]
  have hfields : parseFields D (w.record.texts .timestamped) 1 (D.seconds w.record.timestamp) =
      some (w.record.flow .timestamped) :=
    w.record.parseFields_texts .timestamped [D.write w.record.timestamp]
  have hhead : (w.record.texts .timestamped).getD 0 [] = D.write w.record.timestamp := rfl
  rw [w.parseLine_line, hformat, parseTokens, if_neg (by omega), if_pos hlength, hhead,
    D.stod_write, Option.bind_eq_bind, Option.bind_some, hfields, Option.bind_eq_bind,
    Option.bind_some, w.record.validated_flow, flow, hformat]

/-- A legacy line without a destination port is read as it was written. -/
theorem parseLine_legacy (w : WrittenFlow D) (hformat : w.format = .legacy)
    (hport : w.record.destPort = none) : parseLine D w.line = some w.flow := by
  have hlength : (w.record.texts .legacy).length = 7 := by
    simp [FlowRecord.texts, FlowRecord.legacyTexts, hport]
  have hfields : parseFields D (w.record.texts .legacy) 0 D.zero =
      some (w.record.flow .legacy) := w.record.parseFields_texts .legacy []
  rw [w.parseLine_line, hformat, parseTokens, if_neg (by omega), if_neg (by omega), hfields,
    Option.bind_eq_bind, Option.bind_some, w.record.validated_flow, flow, hformat]

/-- A legacy line with a destination port has eight fields, and is read as a timestamped line
without one. -/
theorem parseLine_legacyWithPort (w : WrittenFlow D) (h : w.LegacyWithPort) :
    ∀ flow ∈ parseLine D w.line, flow.hasExplicitDestPort = false := by
  obtain ⟨hformat, hport⟩ := h
  obtain ⟨port, hport⟩ := Option.isSome_iff_exists.mp hport
  have hlength : (w.record.texts .legacy).length = 8 := by
    simp [FlowRecord.texts, FlowRecord.legacyTexts, hport]
  intro flow hflow
  rw [w.parseLine_line, hformat, parseTokens, if_neg (by omega), if_pos (by omega)] at hflow
  simp only [Option.mem_def, Option.bind_eq_bind, Option.bind_eq_some_iff, parseFields, hlength,
    Nat.reduceAdd, Nat.reduceLeDiff, if_false, Option.some.injEq] at hflow
  obtain ⟨_, -, parsed, ⟨_, -, _, -, _, -, _, -, _, -, _, -, _, -, port, hnone, hparsed⟩, rfl⟩ :=
    hflow
  rw [← hparsed, ← hnone]
  rfl

/-- A line is read as it was written if and only if it is not a legacy line with a
destination port. -/
theorem parseLine_eq_iff (w : WrittenFlow D) :
    parseLine D w.line = some w.flow ↔ ¬ w.LegacyWithPort := by
  constructor
  · intro hparse hlegacy
    have hfalse := w.parseLine_legacyWithPort hlegacy w.flow hparse
    have htrue : w.flow.hasExplicitDestPort = true := hlegacy.2
    rw [hfalse] at htrue
    exact absurd htrue (by decide)
  · intro hlegacy
    cases hformat : w.format with
    | timestamped => exact w.parseLine_timestamped hformat
    | legacy =>
        apply w.parseLine_legacy hformat
        rw [← Option.not_isSome_iff_eq_none]
        exact fun hport => hlegacy ⟨hformat, hport⟩

/-- No line has the end of a line in it. -/
theorem newline_not_mem_line (w : WrittenFlow D) : '\n' ∉ w.line :=
  w.not_mem_line (by decide) (by decide) (by decide)

end WrittenFlow

/-- What is read from a list has all its elements if and only if each of them is read. -/
theorem filterMap_eq_map_iff {α β : Type} (read : α → Option β) (meant : α → β) (l : List α) :
    l.filterMap read = l.map meant ↔ ∀ x ∈ l, read x = some (meant x) := by
  induction l with
  | nil => simp
  | cons x l ih =>
      cases hread : read x with
      | none =>
          simp only [List.filterMap_cons, hread, List.map_cons, List.forall_mem_cons, reduceCtorEq,
            false_and, iff_false]
          intro h
          have hlength := congrArg List.length h
          have hle := List.length_filterMap_le read l
          simp only [List.length_cons, List.length_map] at hlength
          omega
      | some y =>
          simp only [List.filterMap_cons, hread, List.map_cons, List.cons.injEq, ih,
            List.forall_mem_cons, Option.some.injEq]

/-- A file gives back the flows it was written for if and only if none of them is in the legacy
format with a destination port. -/
theorem parse_flowFileText_iff (c : SueSimulationConfig)
    (henabled : c.traffic.enableFineGrainedMode = true) (flows : List (WrittenFlow D)) :
    parseFineGrainedTrafficConfig D c (.text (flowFileText flows)) =
        some (flows.map WrittenFlow.flow) ↔
      ∀ w ∈ flows, ¬ w.LegacyWithPort := by
  have hlines : getlines '\n' (flowFileText flows) = flows.map WrittenFlow.line := by
    apply getlines_terminated
    intro line hline
    obtain ⟨w, -, rfl⟩ := List.mem_map.mp hline
    exact w.newline_not_mem_line
  rw [parseFineGrainedTrafficConfig, if_neg (by simp [henabled])]
  simp only [hlines, Option.some.injEq, List.filterMap_map]
  rw [filterMap_eq_map_iff]
  apply forall₂_congr
  intro w _
  exact w.parseLine_eq_iff

/-! ## Decimal numbers -/

/-- `std::stod` for a number that is written with digits and a negative exponent. -/
def decimalStod (token : List Char) : Option (ℕ × ℕ) :=
  let digits := token.takeWhile Char.isDigit
  if digits = [] then none
  else
    let exponent := match token.dropWhile Char.isDigit with
      | 'e' :: '-' :: rest => Nat.ofDigitChars 10 (rest.takeWhile Char.isDigit) 0
      | _ => 0
    some (Nat.ofDigitChars 10 digits 0, exponent)

/-- A mantissa and the exponent after it. -/
def decimalWrite (x : ℕ × ℕ) : List Char := decimalText x.1 ++ 'e' :: '-' :: decimalText x.2

/-- A written decimal number is read back. -/
theorem decimalStod_decimalWrite (x : ℕ × ℕ) : decimalStod (decimalWrite x) = some x := by
  have hdigits := takeWhile_decimalText x.1 ('e' :: '-' :: decimalText x.2) (by simp)
  have hexponent := takeWhile_decimalText x.2 [] (by simp)
  have hdrop : (decimalWrite x).dropWhile Char.isDigit = 'e' :: '-' :: decimalText x.2 := by
    rw [decimalWrite, List.dropWhile_append_of_pos fun c hc => isDigit_of_mem_decimalText hc]
    rfl
  rw [List.append_nil] at hexponent
  have hvalue : ∀ n, Nat.ofDigitChars 10 (decimalText n) 0 = n :=
    fun _ => Nat.ofDigitChars_ten_toDigits
  rw [decimalStod, hdrop, decimalWrite, hdigits, if_neg (decimalText_ne_nil x.1)]
  simp only [hexponent, hvalue]

theorem isNumeral_decimalWrite (x : ℕ × ℕ) : ∀ c ∈ decimalWrite x, isNumeral c = true := by
  intro c hc
  simp only [decimalWrite, List.mem_append, List.mem_cons] at hc
  rcases hc with hc | rfl | rfl | hc
  · exact isNumeral_of_isDigit (isDigit_of_mem_decimalText hc)
  · decide
  · decide
  · exact isNumeral_of_isDigit (isDigit_of_mem_decimalText hc)

/-- Decimal numbers: a mantissa and a negative power of ten. -/
def decimals : Doubles where
  carrier := ℕ × ℕ
  zero := (0, 0)
  stod := decimalStod
  write := decimalWrite
  seconds x := (x.1, x.2 + 9)
  isNegative _ := false
  write_ne_nil x := by simp [decimalWrite]
  isNumeral_write := isNumeral_decimalWrite
  stod_write := decimalStod_decimalWrite
  seconds_nonneg _ _ := rfl

/-- A flow of 4096 bytes from XPU 0 to XPU 1 at 100 Mbps, with destination port 1. -/
def sampleFlow (format : FlowFormat) : WrittenFlow decimals where
  record :=
    { timestamp := (0, 0)
      timestamp_nonneg := rfl
      sourceXpuId := 0
      destXpuId := 1
      sueId := 0
      suePort := 0
      vcId := 0
      dataRate := (100, 0)
      totalBytes := 4096
      destPort := some 1 }
  format := format
  left _ := ⟨[], by simp⟩
  right _ := ⟨[], by simp⟩

/-- A configuration with a file of flows. -/
def fineGrainedConfig : SueSimulationConfig where
  traffic := { enableFineGrainedMode := true }

/-- The timestamped line of the flow comes back. -/
theorem parse_flowFileText_sample :
    parseFineGrainedTrafficConfig decimals fineGrainedConfig
      (.text (flowFileText [sampleFlow .timestamped])) =
        some [(sampleFlow .timestamped).flow] :=
  (parse_flowFileText_iff fineGrainedConfig rfl [sampleFlow .timestamped]).mpr
    (by simp [WrittenFlow.LegacyWithPort, sampleFlow])

/-- In the legacy format the same flow is read as one from XPU 1 to XPU 0. -/
theorem legacy_line_with_port_misread :
    parseFineGrainedTrafficConfig decimals fineGrainedConfig
      (.text (flowFileText [sampleFlow .legacy])) ≠ some [(sampleFlow .legacy).flow] := by
  intro h
  have hsource := congrArg (Option.map (List.map fun flow => flow.sourceXpuId)) h
  exact absurd hsource (by decide)

end UeSim
