import EventCorrelation.CommandLine.RecordLine
import EventCorrelation.Proofs.Text.Numbers
import EventCorrelation.Proofs.Wire.Readability

/-!
# Line breaks of records

The line of a record shows texts of its publisher as they are: of a message the type, the source, the
name and the version, of anything else the payload. A line break in one of them breaks the line, and
nothing else does but the topic. So a publisher can have the line of any record shown below its own.
-/

namespace EventCorrelation

namespace Text

/-- The characters that end a line. -/
def isLineBreak (symbol : Char) : Bool :=
  let point := symbol.toNat
  (0xA ≤ point && point ≤ 0xD) || point == 0x85 || point == 0x2028 || point == 0x2029

/-- The line breaks in a text, in order. -/
def lineBreaks (text : String) : List Char := text.toList.filter isLineBreak

@[simp]
theorem lineBreaks_append (front back : String) :
    lineBreaks (front ++ back) = lineBreaks front ++ lineBreaks back := by
  simp [lineBreaks]

@[simp]
theorem lineBreaks_integer (number : Int) : lineBreaks (toString number) = [] := by
  refine List.filter_eq_nil_iff.mpr fun symbol isMember => ?_
  rcases mem_integer isMember with rfl | bounds
  · decide
  · simp only [isLineBreak, Bool.or_eq_true, Bool.and_eq_true, decide_eq_true_eq, beq_iff_eq]
    omega

end Text

open Text

namespace Style

variable {style : Style}

theorem filter_start (unbroken : style.parameters.filter isLineBreak = []) :
    style.start.filter isLineBreak = [] := by
  rw [start, List.filter_append, List.filter_cons_of_neg (by decide),
    List.filter_cons_of_neg (by decide), unbroken]
  rfl

/-- What begins a style anew leaves the rest of a text alone. -/
theorem filter_resume (unbroken : style.parameters.filter isLineBreak = []) (symbols : List Char) :
    (style.resume symbols).filter isLineBreak = symbols.filter isLineBreak := by
  induction symbols using Style.resume.induct with
  | case1 rest ih =>
    rw [resume, List.filter_append, List.filter_append, filter_start unbroken, ih]
    rfl
  | case2 symbol rest other ih =>
    rw [resume.eq_2 _ _ _ other, List.filter_cons, List.filter_cons, ih]
  | case3 => rfl

theorem lineBreaks_paint (unbroken : style.parameters.filter isLineBreak = []) (colored : Bool)
    (text : String) : lineBreaks (style.paint colored text) = lineBreaks text := by
  cases colored with
  | false => rfl
  | true =>
    have ended : reset.filter isLineBreak = [] := by decide
    rw [paint, if_pos rfl, lineBreaks, String.toList_ofList, List.filter_append,
      List.filter_append, filter_start unbroken, filter_resume unbroken, ended, List.nil_append,
      List.append_nil, lineBreaks]

end Style

namespace Record

variable {record : Record} {message : Message}

/-- The texts in the line of a record that are taken from its payload as they are. -/
def shown (record : Record) : List String :=
  match record.message? with
  | none => [record.payloadText?.getD binaryMark]
  | some message => [message.type, message.source, message.name, message.version]

theorem lineBreaks_position (record : Record) :
    lineBreaks record.position = lineBreaks record.topic := by
  have slash : lineBreaks "/" = [] := by decide
  have sign : lineBreaks "@" = [] := by decide
  simp only [position, lineBreaks_append, lineBreaks_integer, slash, sign, List.append_nil]

theorem lineBreaks_render (colored : Bool) (record : Record) :
    lineBreaks (record.render colored .text) =
      lineBreaks record.topic ++ record.shown.flatMap lineBreaks := by
  have gap : lineBreaks " " = [] := by decide
  have sign : lineBreaks "@" = [] := by decide
  have place : lineBreaks (Style.dimmed.paint colored record.position) =
      lineBreaks record.topic := by
    rw [Style.lineBreaks_paint (by decide), lineBreaks_position]
  rw [render, shown]
  cases record.message? with
  | none => simp [foreignLine, place, gap]
  | some message =>
    have outcome : lineBreaks (if message.success then Style.green.paint colored "ok"
        else Style.red.paint colored "failed") = [] := by
      split
      · rw [Style.lineBreaks_paint (by decide)]
        decide
      · rw [Style.lineBreaks_paint (by decide)]
        decide
    have type : lineBreaks (Style.bold.paint colored message.type) = lineBreaks message.type :=
      Style.lineBreaks_paint (by decide) colored message.type
    simp [textLine, place, outcome, type, gap, sign]

theorem message?_of_payload (exact : message.data.Exact) (shallow : message.data.Shallow)
    (carries : record.payload = some (Text.bytes message.compact)) :
    record.message? = some message := by
  have decoded : record.decode Message.reader.decode = .ok message := by
    rw [decode, carries]
    exact (Message.readable_iff exact message).mpr ⟨shallow, rfl⟩
  rw [message?, decoded]

/-- A record at the same place with the message in it. -/
def carrying (record : Record) (message : Message) : Record :=
  { record with payload := some (Text.bytes message.compact) }

end Record

/-- The message with another line behind its version. -/
def Message.continuedBy (message : Message) (line : String) : Message :=
  { message with version := message.version ++ "\n" ++ line }

namespace Record

variable {message : Message}

theorem render_carrying (exact : message.data.Exact) (shallow : message.data.Shallow)
    (colored : Bool) (record : Record) :
    (record.carrying message).render colored .text = record.textLine colored message := by
  rw [render, message?_of_payload exact shallow rfl]
  rfl

theorem render_continuedBy (exact : message.data.Exact) (shallow : message.data.Shallow)
    (colored : Bool) (record : Record) (line : String) :
    (record.carrying (message.continuedBy line)).render colored .text =
      record.textLine colored (message.continuedBy line) := by
  have sameData : (message.continuedBy line).data = message.data := rfl
  exact render_carrying (sameData ▸ exact) (sameData ▸ shallow) colored record

/-- The version ends the line, so that what is put behind it stands behind the line. -/
theorem textLine_continuedBy (colored : Bool) (record : Record) (message : Message)
    (line : String) :
    record.textLine colored (message.continuedBy line) =
      record.textLine colored message ++ "\n" ++ line := by
  simp only [textLine, Message.continuedBy, String.append_assoc]

/-- A message without any content. -/
def sampleReport (success : Bool) (type : String) : Message :=
  ⟨success, "", "1.0", type, "quorum.ci", "v1", type, "1", "", "", "", .empty⟩

theorem exact_empty : MessageData.empty.Exact := ⟨nofun, nofun, nofun⟩

theorem shallow_empty : MessageData.empty.Shallow := ⟨nofun, nofun⟩

def samplePlace (offset : Int) : Record := ⟨"quorum.events", 2, offset, none, none, none⟩

/-- The line breaks of a line are those of the topic and of the texts of the publisher that it shows.
So if the topic is in one line, the record is just if these texts are, and whoever can publish a
message can have the line of any other record shown below it. -/
theorem broken_by_what_is_shown (colored : Bool) (record : Record) :
    lineBreaks (record.render colored .text) =
        lineBreaks record.topic ++ record.shown.flatMap lineBreaks ∧
      (lineBreaks record.topic = [] →
        (lineBreaks (record.render colored .text) = [] ↔
          ∀ text ∈ record.shown, lineBreaks text = [])) ∧
      ∀ (forged : Record) (message : Message), message.data.Exact → message.data.Shallow →
        (record.carrying (message.continuedBy (forged.render colored .text))).render colored .text =
          (record.carrying message).render colored .text ++ "\n" ++ forged.render colored .text := by
  have breaks := lineBreaks_render colored record
  refine ⟨breaks, ?_, ?_⟩
  · intro inOneLine
    rw [breaks, inOneLine, List.nil_append, List.flatMap_eq_nil_iff]
  · intro forged message exact shallow
    have continued := render_continuedBy exact shallow colored record (forged.render colored .text)
    rw [continued, render_carrying exact shallow, textLine_continuedBy]

theorem line_shown_below_another :
    let build := sampleReport true "build"
    let deploy := (samplePlace 42).carrying (sampleReport false "deploy")
    lineBreaks (((samplePlace 41).carrying build).render false .text) = [] ∧
      ((samplePlace 41).carrying (build.continuedBy (deploy.render false .text))).render false .text =
        ((samplePlace 41).carrying build).render false .text ++ "\n" ++ deploy.render false .text := by
  intro build deploy
  obtain ⟨-, -, continued⟩ := broken_by_what_is_shown false (samplePlace 41)
  obtain ⟨-, oneLine, -⟩ := broken_by_what_is_shown false ((samplePlace 41).carrying build)
  have shown : ((samplePlace 41).carrying build).shown = ["build", "quorum.ci", "build", "1"] := by
    rw [Record.shown, message?_of_payload exact_empty shallow_empty rfl]
    rfl
  refine ⟨(oneLine (by decide)).mpr ?_, continued deploy build exact_empty shallow_empty⟩
  rw [shown]
  decide

/-- A message that brings a line of its own. -/
def forgedRecord : Record :=
  (samplePlace 41).carrying
    ((sampleReport true "build").continuedBy "quorum.events/2@42 failed deploy quorum.ci deploy@1")

/-- One record prints the lines of two. -/
theorem one_record_in_two_lines :
    forgedRecord.render false .text =
        "quorum.events/2@41 ok build quorum.ci build@1\n" ++
          "quorum.events/2@42 failed deploy quorum.ci deploy@1" ∧
      ¬ ∀ (colored : Bool) (record : Record), lineBreaks record.topic = [] →
        lineBreaks (record.render colored .text) = [] := by
  have printed : forgedRecord.render false .text =
      "quorum.events/2@41 ok build quorum.ci build@1\n" ++
        "quorum.events/2@42 failed deploy quorum.ci deploy@1" := by
    rw [forgedRecord, render_carrying exact_empty shallow_empty]
    decide +kernel
  refine ⟨printed, fun oneLine => ?_⟩
  have broken := oneLine false forgedRecord (by decide)
  rw [printed] at broken
  revert broken
  decide

end Record

end EventCorrelation
