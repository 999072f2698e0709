import ChipEight.Proofs.CompleteListing

namespace ChipEight

/-!
A full page costs one line.

A listing is written to a page that takes a limited number of bytes.  A line is not written at once
but piece by piece, and a piece that does not fit is refused.  By then the line has been taken from
the listing, so it is lost, whatever part of it stands on the page.

How lines are cut into pieces is left open here.  The cut decides how much of the lost line is left
behind, and nothing else: which line is lost, what stands in front of it, and what can still be
listed afterwards are the same for every cut.
-/

/-- What has been written, and how many bytes of it there may be. -/
structure Page where
  limit : Nat
  content : String
deriving DecidableEq, Repr

namespace Page

def blank (limit : Nat) : Page :=
  ⟨limit, ""⟩

/-- A piece that takes the page beyond its limit is refused as a whole. -/
def put (page : Page) (piece : String) : Bool × Page :=
  if (page.content ++ piece).utf8ByteSize ≤ page.limit then
    (true, { page with content := page.content ++ piece })
  else (false, page)

/-- Write pieces one behind the other, and none behind one that was refused. -/
def putAll (page : Page) : List String -> Bool × Page
  | [] => (true, page)
  | piece :: pieces =>
      match page.put piece with
      | (true, page) => page.putAll pieces
      | (false, page) => (false, page)

variable {page : Page} {piece : String}

theorem put_of_room (room : (page.content ++ piece).utf8ByteSize ≤ page.limit) :
    page.put piece = (true, { page with content := page.content ++ piece }) :=
  if_pos room

theorem put_of_full (full : page.limit < (page.content ++ piece).utf8ByteSize) :
    page.put piece = (false, page) :=
  if_neg (Nat.not_le.mpr full)

theorem putAll_of_room (page : Page) {pieces : List String}
    (room : (page.content ++ String.join pieces).utf8ByteSize ≤ page.limit) :
    page.putAll pieces = (true, { page with content := page.content ++ String.join pieces }) := by
  induction pieces generalizing page with
  | nil =>
      rw [String.join_nil, String.append_empty]
      rfl
  | cons piece pieces inductionHypothesis =>
      rw [String.join_cons, ← String.append_assoc] at room ⊢
      have first : (page.content ++ piece).utf8ByteSize ≤ page.limit := by
        rw [String.utf8ByteSize_append] at room
        exact Nat.le_of_add_right_le room
      rw [putAll, put_of_room first]
      exact inductionHypothesis { page with content := page.content ++ piece } room

/-- Pieces that do not all fit leave a part of the whole on the page, and never all of it. -/
theorem putAll_of_full (page : Page) {pieces : List String}
    (inside : page.content.utf8ByteSize ≤ page.limit)
    (full : page.limit < (page.content ++ String.join pieces).utf8ByteSize) :
    Exists fun part => Exists fun missing =>
      String.join pieces = part ++ missing ∧ missing ≠ "" ∧
        page.putAll pieces = (false, { page with content := page.content ++ part }) := by
  induction pieces generalizing page with
  | nil =>
      rw [String.join_nil, String.append_empty] at full
      exact absurd inside (Nat.not_le.mpr full)
  | cons piece pieces inductionHypothesis =>
      rw [String.join_cons] at full ⊢
      rcases Nat.lt_or_ge page.limit (page.content ++ piece).utf8ByteSize with refused | room
      · refine ⟨"", piece ++ String.join pieces, by rw [String.empty_append], ?_, ?_⟩
        · intro empty
          rw [empty, String.append_empty] at full
          exact absurd inside (Nat.not_le.mpr full)
        · rw [putAll, put_of_full refused, String.append_empty]
      · rw [← String.append_assoc] at full
        obtain ⟨part, missing, whole, left, written⟩ :=
          inductionHypothesis { page with content := page.content ++ piece } room full
        refine ⟨piece ++ part, missing, ?_, left, ?_⟩
        · rw [whole, String.append_assoc]
        · rw [putAll, put_of_room room, ← String.append_assoc]
          exact written

end Page

namespace Line

/-- Lines as they are written one behind the other. -/
def joined (lines : List Line) : String :=
  String.join (lines.map written)

theorem joined_cons (line : Line) (lines : List Line) :
    joined (line :: lines) = line.written ++ joined lines := by
  rw [joined, List.map_cons, String.join_cons]
  rfl

theorem joined_concat (lines : List Line) (line : Line) :
    joined (lines ++ [line]) = joined lines ++ line.written := by
  rw [joined, List.map_append, String.join_append, List.map_singleton, String.join_cons,
    String.join_nil, String.append_empty]
  rfl

/-- Among lines that do not all fit behind a text there is a first one that does not. -/
theorem exists_first_beyond {limit : Nat} {content : String} {lines : List Line}
    (inside : content.utf8ByteSize ≤ limit)
    (full : limit < (content ++ joined lines).utf8ByteSize) :
    Exists fun before => Exists fun lost => Exists fun behind =>
      lines = before ++ lost :: behind ∧ (content ++ joined before).utf8ByteSize ≤ limit ∧
        limit < (content ++ joined (before ++ [lost])).utf8ByteSize := by
  induction lines generalizing content with
  | nil =>
      rw [joined, List.map_nil, String.join_nil, String.append_empty] at full
      exact absurd inside (Nat.not_le.mpr full)
  | cons line lines inductionHypothesis =>
      rw [joined_cons, ← String.append_assoc] at full
      rcases Nat.lt_or_ge limit (content ++ line.written).utf8ByteSize with beyond | room
      · refine ⟨[], line, lines, rfl, ?_, ?_⟩
        · rw [joined, List.map_nil, String.join_nil, String.append_empty]
          exact inside
        · rw [joined_concat, joined, List.map_nil, String.join_nil, String.empty_append]
          exact beyond
      · obtain ⟨before, lost, behind, split, fits, beyond⟩ := inductionHypothesis room full
        refine ⟨line :: before, lost, behind, ?_, ?_, ?_⟩
        · rw [split, List.cons_append]
        · rw [joined_cons, ← String.append_assoc]
          exact fits
        · rw [List.cons_append, joined_cons, ← String.append_assoc]
          exact beyond

theorem size_joined_le {lines more : List Line} (front : lines <+: more) :
    (joined lines).utf8ByteSize ≤ (joined more).utf8ByteSize := by
  obtain ⟨behind, rfl⟩ := front
  rw [joined, joined, List.map_append, String.join_append, String.utf8ByteSize_append]
  exact Nat.le_add_right _ _

/-- Lines that fit end in front of the first one that does not. -/
theorem length_le_of_fits {limit : Nat} {lines fitting before : List Line} {lost : Line}
    (front : fitting <+: lines) (alsoFront : before ++ [lost] <+: lines)
    (fits : (joined fitting).utf8ByteSize ≤ limit)
    (beyond : limit < (joined (before ++ [lost])).utf8ByteSize) :
    fitting.length ≤ before.length := by
  by_contra longer
  have inside : before ++ [lost] <+: fitting := by
    apply List.prefix_of_prefix_length_le alsoFront front
    rw [List.length_append, List.length_singleton]
    omega
  exact absurd (Nat.lt_of_lt_of_le beyond (size_joined_le inside)) (Nat.not_lt.mpr fits)

/-- One way to cut a line: in front of its numbers and behind them. -/
def pieces : Line -> List String
  | code address word =>
      [Hex.padded 4 address, ": ", Hex.word word, "  ", (Instruction.decode word).text, "\n"]
  | data address byte =>
      [Hex.padded 4 address, ": ", Hex.byte byte, "    DB 0x", Hex.byte byte, "\n"]

theorem join_pieces (line : Line) : String.join line.pieces = line.written := by
  cases line with
  | code | data =>
      simp only [pieces, String.join_cons, String.join_nil, String.append_empty, written, text,
        String.append_assoc]

end Line

namespace Listing

/-- How a listing was written: whether to its end, what stands on the page, and what is left. -/
structure Outcome where
  done : Bool
  page : Page
  rest : Listing
deriving DecidableEq, Repr

theorem length_rest_next {listing : Listing} {line : Line} (taken : listing.next.1 = some line) :
    listing.next.2.rest.length < listing.rest.length := by
  obtain ⟨address, rest⟩ := listing
  match rest with
  | [] => cases taken
  | [_] => exact Nat.zero_lt_one
  | _ :: _ :: _ => exact Nat.lt_add_of_pos_right Nat.zero_lt_two

/-- To ask a listing that has no more lines changes nothing. -/
theorem next_of_exhausted {listing : Listing} (exhausted : listing.next.1 = none) :
    listing.next.2 = listing := by
  obtain ⟨address, rest⟩ := listing
  match rest with
  | [] => rfl
  | [_] => cases exhausted
  | _ :: _ :: _ => cases exhausted

/-- Take the lines that remain one by one, and write the pieces of each, until one is refused. -/
def writeOn (cut : Line -> List String) (listing : Listing) (page : Page) : Outcome :=
  match _taken : listing.next.1 with
  | none => ⟨true, page, listing.next.2⟩
  | some line =>
      match page.putAll (cut line) with
      | (true, page) => listing.next.2.writeOn cut page
      | (false, page) => ⟨false, page, listing.next.2⟩
termination_by listing.rest.length
decreasing_by exact length_rest_next _taken

section Cut

variable {cut : Line -> List String} {listing : Listing} {page : Page} {line : Line}

theorem writeOn_of_none (exhausted : listing.next.1 = none) :
    listing.writeOn cut page = ⟨true, page, listing⟩ := by
  rw [writeOn]
  split
  case h_1 => rw [next_of_exhausted exhausted]
  case h_2 taken =>
    rw [exhausted] at taken
    cases taken

theorem writeOn_of_some (taken : listing.next.1 = some line) :
    listing.writeOn cut page =
      match page.putAll (cut line) with
      | (true, page) => listing.next.2.writeOn cut page
      | (false, page) => ⟨false, page, listing.next.2⟩ := by
  rw [writeOn]
  split
  case h_1 exhausted =>
    rw [taken] at exhausted
    cases exhausted
  case h_2 other alsoTaken =>
    rw [taken] at alsoTaken
    cases alsoTaken
    rfl

variable (whole : forall line, String.join (cut line) = line.written)

include whole

theorem writeOn_of_room (listing : Listing) (taken : listing.next.1 = some line)
    (room : (page.content ++ line.written).utf8ByteSize ≤ page.limit) :
    listing.writeOn cut page =
      listing.next.2.writeOn cut { page with content := page.content ++ line.written } := by
  rw [← whole] at room ⊢
  rw [writeOn_of_some taken, page.putAll_of_room room]

/-- The line that does not fit is gone. -/
theorem writeOn_of_full (listing : Listing) (page : Page) (taken : listing.next.1 = some line)
    (inside : page.content.utf8ByteSize ≤ page.limit)
    (full : page.limit < (page.content ++ line.written).utf8ByteSize) :
    Exists fun part => Exists fun missing => line.written = part ++ missing ∧ missing ≠ "" ∧
      listing.writeOn cut page =
        ⟨false, { page with content := page.content ++ part }, listing.next.2⟩ := by
  rw [← whole] at full ⊢
  obtain ⟨part, missing, split, left, written⟩ := page.putAll_of_full inside full
  refine ⟨part, missing, split, left, ?_⟩
  rw [writeOn_of_some taken, written]

/-- Lines that fit are written, and the writing goes on behind them. -/
theorem writeOn_append (page : Page) {before behind : List Line}
    (lines : listing.lines = before ++ behind)
    (room : (page.content ++ Line.joined before).utf8ByteSize ≤ page.limit) :
    listing.writeOn cut page =
      (listing.advance before.length).writeOn cut
        { page with content := page.content ++ Line.joined before } := by
  induction before generalizing listing page with
  | nil =>
      rw [Line.joined, List.map_nil, String.join_nil, String.append_empty]
      rfl
  | cons line before inductionHypothesis =>
      rw [Line.joined_cons, ← String.append_assoc] at room ⊢
      have first : (page.content ++ line.written).utf8ByteSize ≤ page.limit := by
        rw [String.utf8ByteSize_append] at room
        exact Nat.le_of_add_right_le room
      have taken : listing.next.1 = some line := by
        rw [(next_eq listing).1, lines, List.cons_append, List.head?_cons]
      have left : listing.next.2.lines = before ++ behind := by
        rw [(next_eq listing).2, lines, List.cons_append, List.tail_cons]
      rw [writeOn_of_room whole listing taken first]
      exact inductionHypothesis { page with content := page.content ++ line.written } left room

theorem writeOn_of_fits
    (fits : (page.content ++ listing.text).utf8ByteSize ≤ page.limit) :
    listing.writeOn cut page =
      ⟨true, { page with content := page.content ++ listing.text },
        listing.advance listing.lines.length⟩ := by
  rw [text_eq_join] at fits ⊢
  have exhausted : (listing.advance listing.lines.length).next.1 = none := by
    rw [next_advance, List.getElem?_eq_none (Nat.le_refl _)]
  rw [writeOn_append whole page (List.append_nil listing.lines).symm fits,
    writeOn_of_none exhausted]
  rfl

/-- What a page takes of a listing, and what is left, does not depend on the cut. -/
theorem writeFrom_eq_writeOn (page : Page) {address : Nat} {program : List UInt8}
    (inside : page.content.utf8ByteSize ≤ page.limit) :
    let outcome := writeOn cut ⟨address, program⟩ page
    writeFrom page.limit address page.content program =
      (if outcome.done then some outcome.page.content else none, outcome.rest) := by
  fun_induction linesFrom address program generalizing page with
  | case1 address =>
      rw [writeOn_of_none rfl]
      rfl
  | case2 address byte =>
      rw [writeFrom, String.append_assoc, ← Line.written]
      rcases Nat.lt_or_ge page.limit
        (page.content ++ (Line.data address byte).written).utf8ByteSize with full | room
      · obtain ⟨part, missing, -, -, written⟩ := writeOn_of_full whole
          ⟨address, [byte]⟩ page rfl inside full
        rw [if_neg (Nat.not_le.mpr full), written]
        rfl
      · rw [if_pos room, writeOn_of_room whole ⟨address, [byte]⟩ rfl room, writeOn_of_none rfl]
        rfl
  | case3 address high low rest inductionHypothesis =>
      rw [writeFrom, String.append_assoc, ← Line.written]
      rcases Nat.lt_or_ge page.limit (page.content ++
        (Line.code address (Word.ofBytes high low)).written).utf8ByteSize with full | room
      · obtain ⟨part, missing, -, -, written⟩ := writeOn_of_full whole
          ⟨address, high :: low :: rest⟩ page rfl inside full
        rw [if_neg (Nat.not_le.mpr full), written]
        rfl
      · rw [if_pos room, writeOn_of_room whole ⟨address, high :: low :: rest⟩ rfl room]
        exact inductionHypothesis ⟨page.limit, _⟩ room

end Cut

/-- How a listing is written to a page that is too small for it, cut at the line that is lost. -/
structure LosesOne (cut : Line -> List String) (limit : Nat) (left : Listing) (outcome : Outcome)
    (before : List Line) (lost : Line) (behind : List Line) : Prop where
  lines_eq : left.lines = before ++ lost :: behind
  /-- The lost line is the first whose end lies beyond the limit. -/
  fits : (Line.joined before).utf8ByteSize ≤ limit
  beyond : limit < (Line.joined (before ++ [lost])).utf8ByteSize
  /-- The lines in front of it stand on the page, and at most a part of it. -/
  content : Exists fun part => Exists fun missing => lost.written = part ++ missing ∧
    missing ≠ "" ∧ outcome.page.content = Line.joined before ++ part
  /-- It is the last line that was taken. -/
  rest_eq : outcome.rest = left.advance (before.length + 1)
  rest_lines : outcome.rest.lines = behind
  /-- The lines behind it are written to the next page that has room for them. -/
  later : forall room, (Line.joined behind).utf8ByteSize ≤ room ->
    outcome.rest.writeOn cut (Page.blank room) =
      ⟨true, ⟨room, Line.joined behind⟩, left.advance left.lines.length⟩

/-- Only one line can be the one that is lost. -/
theorem LosesOne.unique {cut : Line -> List String} {limit : Nat} {left : Listing}
    {outcome : Outcome} {before behind : List Line} {lost : Line}
    (loses : LosesOne cut limit left outcome before lost behind)
    {others : List Line} {other : Line} {more : List Line}
    (lines : left.lines = others ++ other :: more)
    (fits : (Line.joined others).utf8ByteSize ≤ limit)
    (beyond : limit < (Line.joined (others ++ [other])).utf8ByteSize) :
    before = others ∧ lost = other ∧ behind = more := by
  have fronts : forall {front : List Line} {line : Line} {rest : List Line},
      left.lines = front ++ line :: rest ->
        front <+: left.lines ∧ front ++ [line] <+: left.lines := by
    intro front line rest split
    exact ⟨⟨_, split.symm⟩, ⟨rest, by rw [split, List.append_assoc, List.singleton_append]⟩⟩
  have lengths : before.length = others.length :=
    Nat.le_antisymm
      (Line.length_le_of_fits (fronts loses.lines_eq).1 (fronts lines).2 loses.fits beyond)
      (Line.length_le_of_fits (fronts lines).1 (fronts loses.lines_eq).2 fits loses.beyond)
  obtain ⟨front, rest⟩ := List.append_inj (loses.lines_eq.symm.trans lines) lengths
  exact ⟨front, List.cons.inj rest⟩

section Blank

variable {cut : Line -> List String} {left : Listing} {limit : Nat}
  (whole : forall line, String.join (cut line) = line.written)

include whole

theorem writeOn_blank_of_fits (fits : left.text.utf8ByteSize ≤ limit) :
    left.writeOn cut (Page.blank limit) =
      ⟨true, ⟨limit, left.text⟩, left.advance left.lines.length⟩ := by
  have written : left.writeOn cut (Page.blank limit) =
      ⟨true, ⟨limit, "" ++ left.text⟩, left.advance left.lines.length⟩ := by
    apply writeOn_of_fits whole
    change ("" ++ left.text).utf8ByteSize ≤ limit
    rw [String.empty_append]
    exact fits
  rw [String.empty_append] at written
  exact written

theorem writeOn_blank_of_full (full : limit < left.text.utf8ByteSize) :
    (left.writeOn cut (Page.blank limit)).done = false ∧
      Exists fun before => Exists fun lost => Exists fun behind =>
        LosesOne cut limit left (left.writeOn cut (Page.blank limit)) before lost behind := by
  rw [text_eq_join, ← String.empty_append (s := String.join _)] at full
  obtain ⟨before, lost, behind, lines, fits, beyond⟩ :=
    Line.exists_first_beyond (Nat.zero_le limit) full
  have tooLong : limit < ("" ++ Line.joined before ++ lost.written).utf8ByteSize := by
    rw [Line.joined_concat, ← String.append_assoc] at beyond
    exact beyond
  have taken : (left.advance before.length).next.1 = some lost := by
    rw [next_advance, lines, List.getElem?_append_right (Nat.le_refl _), Nat.sub_self]
    rfl
  have rest : (left.advance before.length).next.2 = left.advance (before.length + 1) := by
    rw [advance, advance, Function.iterate_succ_apply']
  obtain ⟨part, missing, split, short, written⟩ :=
    writeOn_of_full whole _ ⟨limit, "" ++ Line.joined before⟩ taken fits tooLong
  have result := (writeOn_append whole (Page.blank limit) lines fits).trans written
  rw [String.empty_append] at fits beyond result
  rw [rest] at result
  rw [result]
  have remain : (left.advance (before.length + 1)).lines = behind := by
    rw [lines_advance, lines, List.drop_length_add_append, List.drop_succ_cons, List.drop_zero]
  refine ⟨rfl, before, lost, behind, lines, fits, beyond, ⟨part, missing, split, short, rfl⟩, rfl,
    remain, fun room enough => ?_⟩
  have text : (left.advance (before.length + 1)).text = Line.joined behind := by
    rw [text_eq_join, remain]
    rfl
  rw [← text] at enough ⊢
  rw [writeOn_blank_of_fits whole enough, advance_advance, remain, lines, List.length_append,
    List.length_cons, Nat.add_assoc, Nat.add_comm 1]

end Blank

/-- A listing that fits on a page is written there to its end.  Of any other, the lines up to the
first whose end lies beyond the limit are taken, the last of them in vain, and all that follow can
still be written. -/
theorem full_page_costs_one_line {cut : Line -> List String}
    (whole : forall line, String.join (cut line) = line.written) (program : List UInt8)
    (calls limit : Nat) :
    let left := (ofProgram program).advance calls
    let outcome := left.writeOn cut (Page.blank limit)
    (outcome.done = true ↔ left.text.utf8ByteSize ≤ limit) ∧
    (outcome.done = true ->
      outcome.page.content = left.text ∧ outcome.rest = left.advance left.lines.length) ∧
    (outcome.done = false -> Exists fun before => Exists fun lost => Exists fun behind =>
      LosesOne cut limit left outcome before lost behind) ∧
    left.writeWithin limit =
      (if outcome.done then some outcome.page.content else none, outcome.rest) := by
  intro left outcome
  have within : left.writeWithin limit =
      (if outcome.done then some outcome.page.content else none, outcome.rest) :=
    writeFrom_eq_writeOn whole (Page.blank limit) (Nat.zero_le limit)
  rcases Nat.lt_or_ge limit left.text.utf8ByteSize with full | fits
  · obtain ⟨failed, lost⟩ := writeOn_blank_of_full whole full
    have undone : ¬ outcome.done = true := Bool.eq_false_iff.mp failed
    exact ⟨⟨fun done => absurd done undone, fun fits => absurd full (Nat.not_lt.mpr fits)⟩,
      fun done => absurd done undone, fun _ => lost, within⟩
  · have result : outcome = ⟨true, ⟨limit, left.text⟩, left.advance left.lines.length⟩ :=
      writeOn_blank_of_fits whole fits
    refine ⟨⟨fun _ => fits, fun _ => by rw [result]⟩, fun _ => by rw [result]; exact ⟨rfl, rfl⟩,
      fun failed => ?_, within⟩
    rw [result] at failed
    cases failed

/-- Behind the first line of a program, a page of thirty bytes ends in the second of the three lines
that are left.  The last byte of the program comes next. -/
theorem full_page_costs_second_line :
    let left := (ofProgram [0x00, 0xE0, 0x00, 0xEE, 0xF0, 0x0A, 0x12]).advance 1
    let outcome := left.writeOn Line.pieces (Page.blank 30)
    (forall line, String.join (Line.pieces line) = line.written) ∧ 30 < left.text.utf8ByteSize ∧
      outcome.done = false ∧
      LosesOne Line.pieces 30 left outcome [.code 0x202 0x00EE] (.code 0x204 0xF00A)
        [.data 0x206 0x12] ∧
      left.writeWithin 30 = (none, left.advance 2) := by
  intro left outcome
  have text : left.text = "0202: 00EE  RET\n0204: F00A  LD V0, K\n0206: 12    DB 0x12\n" := by
    decide +kernel
  have full : 30 < left.text.utf8ByteSize := by
    rw [text]
    decide
  obtain ⟨done, -, failed, within⟩ := full_page_costs_one_line Line.join_pieces
    [0x00, 0xE0, 0x00, 0xEE, 0xF0, 0x0A, 0x12] 1 30
  have undone : outcome.done = false :=
    Bool.eq_false_iff.mpr fun finished => absurd (done.mp finished) (Nat.not_le.mpr full)
  obtain ⟨before, lost, behind, loses⟩ := failed undone
  have lines : left.lines = [.code 0x202 0x00EE] ++ .code 0x204 0xF00A :: [.data 0x206 0x12] := rfl
  obtain ⟨rfl, rfl, rfl⟩ := loses.unique lines (by decide +kernel) (by decide +kernel)
  refine ⟨Line.join_pieces, full, undone, loses, ?_⟩
  have none : left.writeWithin 30 = (none, outcome.rest) := by
    rw [within, if_neg (Bool.eq_false_iff.mp undone)]
  rw [none, loses.rest_eq]
  rfl

end Listing
end ChipEight
