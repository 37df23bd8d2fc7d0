/-
This file says what a style tag becomes. Main statement: a document that is one style tag is
expanded to the glyphs of its whole content, joined by what the tag puts between them, whatever the
content looks like.
-/

import Flourish.Proofs.Conversion
import Flourish.Proofs.Expansion.Answer
import Flourish.Proofs.Expansion.Call
import Flourish.Proofs.Span.Line
import Flourish.Proofs.Text.Numeral

namespace Flourish

/-- How it is written behind the name of a style what stands between the glyphs: nothing, a number
of spaces, or a separator that the registry knows. -/
inductive Spreads (processor : Processor) : Text → Text → Prop
  | plain : Spreads processor [] []
  | spacing {count : Nat} (few : count ≤ processor.settings.maxSpacing)
      (short : count < 10 ^ Text.maximumDigits) :
      Spreads processor (":spacing=" ++ Text.ofNat count) (List.replicate count (.of ' '))
  | separator {value separator : Text}
      (letters : ∀ letter ∈ value,
        letter ≠ ':' ∧ letter ≠ '/' ∧ letter ≠ '}' ∧ letter ≠ '{' ∧ letter ≠ '\n')
      (known : processor.registry.separator value processor.settings.separatorContext =
        .ok separator) :
      Spreads processor (":separator=" ++ value) separator

/-- A document that is one style tag. -/
def styled (name label text : Text) : Text :=
  openForm (name ++ label) ++ (text ++ closerForm name)

namespace Tag

/-- A parameter is a segment if its value has only letters of segments. -/
theorem isSegment_parameter {key value : Text} (isName : IsName key)
    (letters : ∀ letter ∈ value,
      letter ≠ ':' ∧ letter ≠ '/' ∧ letter ≠ '}' ∧ letter ≠ '{' ∧ letter ≠ '\n') :
    IsSegment (key ++ .of '=' :: value) := by
  have absent : .of '=' ∉ key := not_mem_of_isNameLetter isName.2 rfl
  rw [isSegment_iff, entry_eq_some_iff.mpr ⟨rfl, absent⟩]
  refine ⟨by simp, ?_, ?_⟩
  · intro letter member
    rcases List.mem_append.mp member with inKey | behind
    · exact isSegmentLetter_of_isNameLetter (isName.2 letter inKey)
    · rcases List.mem_cons.mp behind with rfl | inValue
      · rfl
      · exact isSegmentLetter_iff.mpr (letters letter inValue)
  · rintro entry ⟨⟩
    exact isName

end Tag

/-- The head of a style tag. -/
def Head.ofStyle (name : Text) (segments : List Text) : Head :=
  ⟨none, name, segments, false⟩

theorem Head.ofStyle_wellFormed {name : Text} {segments : List Text} (isName : Tag.IsName name)
    (unreserved : TagKind.reserved? name = none)
    (isSegment : ∀ segment ∈ segments, Tag.IsSegment segment) :
    (ofStyle name segments).WellFormed where
  space := fun _ member => nomatch member
  name := isName
  bare := by
    rintro _ _ kind reserved same
    rw [show name = kind.name from same, Tag.reserved_name reserved] at unreserved
    cases unreserved
  segments := isSegment

theorem styled_eq (name : Text) (segments : List Text) (text : Text) :
    styled name (Tag.writtenSegments segments) text =
      .of '{' :: .of '{' :: ((Head.ofStyle name segments).inside ++ (text ++ closerForm name)) := by
  simp [styled, openForm, Head.ofStyle, Head.inside, Head.writtenSpace, Tag.ending]

namespace Dispatch

variable {processor : Processor} {name text : Text} {segments : List Text}

/-- What a style tag with these segments becomes. -/
def styledText (processor : Processor) (style : StyleBody) (segments : List Text) (text : Text) :
    Except Stop Text :=
  ((spread processor (Table.ofEntries (segments.filterMap Tag.entry?))).mapError
    Stop.failure).bind fun between => (Conversion.spread style text between).mapError Stop.defect

/-- A style tag without arguments becomes its content with what its parameters ask for between the
glyphs. -/
theorem style_segments {entry : Entry StyleBody} (labels : ∀ segment ∈ segments, .of '=' ∈ segment)
    (resolved : Registry.resolveIn processor.registry.styles name processor.context =
      .ok (some entry))
    (closed : Text.firstIndex (closerForm name) (text ++ closerForm name) = some text.length)
    (position : Nat) :
    (decide processor ((Head.ofStyle name segments).opening position)
        ((Head.ofStyle name segments).inside ++ (text ++ closerForm name))).outcome =
      (styledText processor entry.body segments text).map fun output =>
        ((Head.ofStyle name segments).extentAround text name, .write output) := by
  have arguments : segments.filter (.of '=' ∉ ·) = [] := by
    refine List.filter_eq_nil_iff.mpr fun segment member => ?_
    simpa using labels segment member
  have tag : ((Head.ofStyle name segments).opening position).tag =
      ⟨none, name, [], Table.ofEntries (segments.filterMap Tag.entry?), false, none⟩ := by
    simp only [Head.opening, Head.tag, Head.ofStyle, arguments]
  have sized : Dispatch.extent ((Head.ofStyle name segments).opening position)
      ((Head.ofStyle name segments).inside ++ (text ++ closerForm name)) =
        .ok ((Head.ofStyle name segments).extentAround text name) :=
    Head.extent_specific rfl rfl closed
  show (style processor _ _).outcome = _
  simp only [style, tag, resolved, sized, Head.contentIn_extentAround, List.isEmpty_nil,
    Bool.not_true, Bool.false_eq_true, if_false, styledText]
  cases spread processor (Table.ofEntries (segments.filterMap Tag.entry?)) with
  | error failure => rfl
  | ok between =>
      simp only [Except.mapError, Except.bind]
      cases Conversion.spread entry.body text between <;> rfl

/-- The spaces that are asked for in decimal digits, if there are not too many. -/
theorem spacing_ofNat {settings : Settings} {count : Nat} (few : count ≤ settings.maxSpacing)
    (short : count < 10 ^ Text.maximumDigits) :
    spacing settings (Text.ofNat count) = .ok count := by
  have fits : (count : Int) ≤ settings.maxSpacing := Int.ofNat_le.mpr few
  simp only [spacing, Text.readInteger_ofNat, if_pos short, Int.natCast_nonneg, fits, decide_true,
    Bool.and_self, if_true, Int.toNat_natCast]

/-- A number of spaces with too many digits is not read. -/
theorem spacing_refused (settings : Settings) {count : Nat}
    (long : 10 ^ Text.maximumDigits ≤ count) :
    spacing settings (Text.ofNat count) =
      .error (Cause.invalidParameter "spacing" (Text.ofNat count) .notInteger).unplaced := by
  simp only [spacing, Text.readInteger_ofNat, if_neg (Nat.not_lt.mpr long)]

end Dispatch

namespace Spreads

variable {processor : Processor} {label separator : Text}

/-- A label of one parameter is one segment. -/
theorem parameter {key value : Text} (isName : Tag.IsName key)
    (letters : ∀ letter ∈ value,
      letter ≠ ':' ∧ letter ≠ '/' ∧ letter ≠ '}' ∧ letter ≠ '{' ∧ letter ≠ '\n') :
    .of ':' :: (key ++ .of '=' :: value) = Tag.writtenSegments [key ++ .of '=' :: value] ∧
      (∀ segment ∈ [key ++ .of '=' :: value], Tag.IsSegment segment ∧ .of '=' ∈ segment) ∧
      Table.ofEntries ([key ++ .of '=' :: value].filterMap Tag.entry?) = [(key, value)] := by
  have entry : Tag.entry? (key ++ .of '=' :: value) = some (key, value) :=
    Tag.entry_eq_some_iff.mpr ⟨rfl, Tag.not_mem_of_isNameLetter isName.2 rfl⟩
  refine ⟨by simp [Tag.writtenSegments], ?_, ?_⟩
  · exact List.forall_mem_singleton.mpr ⟨Tag.isSegment_parameter isName letters, by simp⟩
  · rw [List.filterMap_cons_some entry]
    rfl

/-- The digits of a number are letters of segments. -/
theorem letters_ofNat (count : Nat) : ∀ letter ∈ Text.ofNat count,
    letter ≠ ':' ∧ letter ≠ '/' ∧ letter ≠ '}' ∧ letter ≠ '{' ∧ letter ≠ '\n' := by
  intro letter member
  have digit := Text.isDigit_of_mem_ofNat member
  exact ⟨Text.ne_of_isDigit digit rfl, Text.ne_of_isDigit digit rfl,
    Text.ne_of_isDigit digit rfl, Text.ne_of_isDigit digit rfl, Text.ne_of_isDigit digit rfl⟩

/-- What is written behind the name is read as parameters, and they put this between the glyphs. -/
theorem read (spreads : Spreads processor label separator) :
    ∃ segments, label = Tag.writtenSegments segments ∧
      (∀ segment ∈ segments, Tag.IsSegment segment ∧ .of '=' ∈ segment) ∧
      ∃ between, Dispatch.spread processor (Table.ofEntries (segments.filterMap Tag.entry?)) =
          .ok between ∧
        ∀ style text, Conversion.spread style text between =
          (style.glyphs text).map (Text.join separator) := by
  cases spreads with
  | plain => exact ⟨[], rfl, nofun, .plain, rfl, Conversion.convert_eq⟩
  | @spacing count few short =>
      obtain ⟨written, segments, entries⟩ :=
        @parameter "spacing" _ (by decide) (letters_ofNat count)
      refine ⟨_, written, segments, .spaced count, ?_, fun style text =>
        Conversion.spaced_eq style text count⟩
      rw [entries]
      exact congrArg (Except.map Spread.spaced) (Dispatch.spacing_ofNat few short)
  | @separator value _ letters known =>
      obtain ⟨written, segments, entries⟩ := @parameter "separator" _ (by decide) letters
      refine ⟨_, written, segments, .separated separator, ?_, fun style text => ?_⟩
      · rw [entries]
        exact congrArg (Except.map Spread.separated) known
      · rw [Conversion.spread, Conversion.separated_eq, Int.toNat_one, Conversion.repeated_one]

end Spreads

namespace Processor

variable {processor : Processor} {name label separator text : Text} {entry : Entry StyleBody}

/-- A document that is one style tag comes to what its parameters make of its content. -/
theorem process_segments {segments : List Text} (isName : Tag.IsName name)
    (unreserved : TagKind.reserved? name = none)
    (isSegment : ∀ segment ∈ segments, Tag.IsSegment segment ∧ .of '=' ∈ segment)
    (resolved : Registry.resolveIn processor.registry.styles name processor.context =
      .ok (some entry))
    (closed : Text.firstIndex (closerForm name) (text ++ closerForm name) = some text.length)
    {document : Text} (written : document = styled name (Tag.writtenSegments segments) text)
    (scanned : Span.scan processor.settings.codeMarks document =
      [⟨.literal, 0, document.length⟩]) :
    (processor.process document).result =
      ((Dispatch.styledText processor entry.body segments text).mapError
        ((Site.ofDocument document 0).placed 0)).map fun output => ⟨output, []⟩ := by
  have wellFormed := Head.ofStyle_wellFormed isName unreserved
    fun segment member => (isSegment segment member).1
  have decided := Dispatch.style_segments (fun segment member => (isSegment segment member).2)
    resolved closed 0
  exact process_written wellFormed decided (Head.size_extentAround _ _ _)
    (written.trans (styled_eq _ _ _)) scanned

/-- A document that is one style tag is expanded to the glyphs of its content, joined by what the
tag puts between them. -/
theorem process_glyphs (isName : Tag.IsName name) (unreserved : TagKind.reserved? name = none)
    (resolved : Registry.resolveIn processor.registry.styles name processor.context =
      .ok (some entry))
    (spreads : Spreads processor label separator)
    (closed : Text.firstIndex (closerForm name) (text ++ closerForm name) = some text.length)
    (scanned : Span.scan processor.settings.codeMarks (styled name label text) =
      [⟨.literal, 0, (styled name label text).length⟩]) :
    (processor.process (styled name label text)).result =
      ((entry.body.glyphs text).mapError Stop.defect).map fun glyphs =>
        ⟨Text.join separator glyphs, []⟩ := by
  obtain ⟨segments, rfl, isSegment, between, read, converts⟩ := spreads.read
  rw [process_segments isName unreserved isSegment resolved closed rfl scanned,
    Dispatch.styledText, read]
  simp only [Except.mapError, Except.bind, converts]
  cases entry.body.glyphs text <;> rfl

/-- A number of spaces is refused if it has too many digits, however many are allowed. -/
theorem process_spacing_refused (isName : Tag.IsName name)
    (unreserved : TagKind.reserved? name = none)
    (resolved : Registry.resolveIn processor.registry.styles name processor.context =
      .ok (some entry))
    {count : Nat} (long : 10 ^ Text.maximumDigits ≤ count)
    (closed : Text.firstIndex (closerForm name) (text ++ closerForm name) = some text.length)
    {document : Text} (written : document = styled name (":spacing=" ++ Text.ofNat count) text)
    (scanned : Span.scan processor.settings.codeMarks document =
      [⟨.literal, 0, document.length⟩]) :
    (processor.process document).result =
      .error ((Site.ofDocument document 0).placed 0 (.failure
        (Cause.invalidParameter "spacing" (Text.ofNat count) .notInteger).unplaced)) := by
  obtain ⟨label, isSegment, entries⟩ :=
    @Spreads.parameter "spacing" _ (by decide) (Spreads.letters_ofNat count)
  have refused : Dispatch.spread processor [("spacing", Text.ofNat count)] =
      .error (Cause.invalidParameter "spacing" (Text.ofNat count) .notInteger).unplaced :=
    congrArg (Except.map Spread.spaced) (Dispatch.spacing_refused processor.settings long)
  rw [process_segments isName unreserved isSegment resolved closed
    (written.trans (congrArg (styled name · text) label)) scanned, Dispatch.styledText, entries,
    refused]
  rfl

/-- A document that is one style tag is expanded to the glyphs of its content, joined by what the
tag puts between them. It does not matter what the content looks like, as long as the closer of the
tag does not stand in it earlier. Nothing between the glyphs is no case of its own. -/
theorem process_styled (processor : Processor) :
    (∀ name label separator text, ∀ entry : Entry StyleBody,
      Tag.IsName name → TagKind.reserved? name = none →
      Registry.resolveIn processor.registry.styles name processor.context = .ok (some entry) →
      Spreads processor label separator →
      Text.firstIndex (closerForm name) (text ++ closerForm name) = some text.length →
      Span.scan processor.settings.codeMarks (styled name label text) =
        [⟨.literal, 0, (styled name label text).length⟩] →
      (processor.process (styled name label text)).result =
        ((entry.body.glyphs text).mapError Stop.defect).map fun glyphs =>
          ⟨Text.join separator glyphs, []⟩) ∧
    ∀ style text,
      (∀ glyphs, Text.join [] glyphs = glyphs.flatten) ∧
      (∀ separator count, Conversion.separated style text separator count =
        (style.glyphs text).map (Text.join (Conversion.repeated count.toNat separator))) ∧
      ∀ count, Conversion.spaced style text count =
        (style.glyphs text).map (Text.join (List.replicate count.toNat (.of ' '))) :=
  ⟨fun _ _ _ _ _ => process_glyphs, fun style text => ⟨Text.join_empty,
    Conversion.separated_eq style text, Conversion.spaced_eq style text⟩⟩

/-- A style tag whose content is a closer that closes nothing, a head that breaks off and half a
closer of its own. -/
theorem process_styled_markup :
    let text : Text := "A\x7b\x7b/ui\x7d\x7d\x7b\x7bx:\x7d\x7b\x7b/b\x7dA"
    Tag.IsName "b" ∧ TagKind.reserved? "b" = none ∧
      Spreads bracketing ":spacing=1" " " ∧
      Text.firstIndex (closerForm "b") (text ++ closerForm "b") = some text.length ∧
      Span.scan bracketing.settings.codeMarks (styled "b" ":spacing=1" text) =
        [⟨.literal, 0, (styled "b" ":spacing=1" text).length⟩] ∧
      (bracketing.process (styled "b" ":spacing=1" text)).result =
        .ok ⟨"𝐀 \x7b \x7b / u i \x7d \x7d \x7b \x7b x : \x7d \x7b \x7b / b \x7d 𝐀", []⟩ := by
  intro text
  have isName : Tag.IsName "b" := by decide
  have unreserved : TagKind.reserved? "b" = none := by decide
  have spreads : Spreads bracketing ":spacing=1" " " :=
    @Spreads.spacing bracketing 1 (by decide) (Nat.one_lt_pow (by decide) (by decide))
  have closed : Text.firstIndex (closerForm "b") (text ++ closerForm "b") = some text.length := by
    with_unfolding_all rfl
  have scanned : Span.scan bracketing.settings.codeMarks (styled "b" ":spacing=1" text) =
      [⟨.literal, 0, (styled "b" ":spacing=1" text).length⟩] := by
    with_unfolding_all rfl
  refine ⟨isName, unreserved, spreads, closed, scanned, ?_⟩
  exact (process_styled bracketing).1 "b" ":spacing=1" " " text _ isName unreserved rfl spreads
    closed scanned

/-- A processor that allows very many spaces. -/
def generous : Processor :=
  { bracketing with
    settings := { Settings.standard with maxSpacing := 10 ^ Text.maximumDigits } }

/-- A style tag with a brace that opens as its separator. -/
def braceSeparated : Text :=
  styled "b" ":separator=\x7b" "AA"

/-- A style tag that asks for as many spaces as the processor allows. -/
def spacedOut : Text :=
  styled "b" (":spacing=" ++ Text.ofNat (10 ^ Text.maximumDigits)) "A"

theorem scan_spacedOut : Span.scan generous.settings.codeMarks spacedOut =
    [⟨.literal, 0, spacedOut.length⟩] := by
  have digits (letter : Letter) (other : letter.isDigit = false) :
      letter ∉ Text.ofNat (10 ^ Text.maximumDigits) := fun member =>
    Text.ne_of_isDigit (Text.isDigit_of_mem_ofNat member) other rfl
  have whole : spacedOut = .of '{' :: (("\x7bb:spacing=" : Text) ++
      (Text.ofNat (10 ^ Text.maximumDigits) ++ (("\x7d\x7dA" : Text) ++ closerForm "b"))) := by
    simp [spacedOut, styled, openForm]
  rw [whole]
  refine Span.scan_braces ?_ ?_
  · simp [closerForm, digits (.of '\n') rfl]
  · simp [closerForm, digits (.of '\x60') rfl]

/-- A brace that opens is a separator of one letter, but no head holds it. A number of spaces with
too many digits is not read, although it is allowed. -/
theorem process_styled_refused :
    (bracketing.registry.separator "\x7b" bracketing.settings.separatorContext = .ok "\x7b" ∧
      Text.firstIndex (closerForm "b") ("AA" ++ closerForm "b") = some 2 ∧
      Span.scan bracketing.settings.codeMarks braceSeparated =
        [⟨.literal, 0, braceSeparated.length⟩] ∧
      (bracketing.process braceSeparated).result =
        .error (.failure ((Cause.malformedTag .unterminated).placed 0))) ∧
    10 ^ Text.maximumDigits ≤ generous.settings.maxSpacing ∧
      Text.firstIndex (closerForm "b") ("A" ++ closerForm "b") = some 1 ∧
      Span.scan generous.settings.codeMarks spacedOut = [⟨.literal, 0, spacedOut.length⟩] ∧
      ∃ stop, (generous.process spacedOut).result = .error stop := by
  have scanned : Span.scan bracketing.settings.codeMarks braceSeparated =
      [⟨.literal, 0, braceSeparated.length⟩] := by
    with_unfolding_all rfl
  have stopped (run : Run) : Machine.step bracketing (Machine.ofDocument braceSeparated 0 run) =
      .stopped (.failure ((Cause.malformedTag .unterminated).placed 0)) run := by
    with_unfolding_all rfl
  have unterminated : (bracketing.process braceSeparated).result =
      .error (.failure ((Cause.malformedTag .unterminated).placed 0)) := by
    rw [process_tagged scanned (by with_unfolding_all rfl) (Machine.finish_stopped (stopped _))]
    rfl
  have closed : Text.firstIndex (closerForm "b") ("A" ++ closerForm "b") = some 1 := by
    with_unfolding_all rfl
  have unread := process_spacing_refused (by decide) (by decide)
    (show Registry.resolveIn generous.registry.styles "b" generous.context = .ok (some _) from rfl)
    (Nat.le_refl _) closed (show spacedOut = _ from rfl) scan_spacedOut
  exact ⟨⟨by with_unfolding_all rfl, by with_unfolding_all rfl, scanned, unterminated⟩,
    Nat.le_refl _, closed, scan_spacedOut, _, unread⟩

end Processor
end Flourish
