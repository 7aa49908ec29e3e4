import CivilTime.Proofs.Clock.Parts
import CivilTime.Proofs.Date.Form
import CivilTime.Proofs.Session.Run
import CivilTime.Proofs.Text.Position
import CivilTime.Proofs.Text.Reading

/-!
# Reading literals by positions

The readers cut a text at its separators. Here are the same readers with positions in bytes for the
cuts: they search for separators, sometimes from the byte after a character that may have several,
and take slices between what they found. Taking a slice that does not exist would leave them without
any answer; they always have one, and it is that of the readers that cut
(`readLiteralByPositions_eq`).
-/

set_option autoImplicit false

namespace CivilTime

open CivilTime.Text

/-! ## Dates -/

namespace Date

/-- The positions of the first two dashes after the first character from a position on. The first
search begins with the byte after that position. -/
def dashPositions? (start : Nat) (text : List Char) : Option (Nat × Nat) := do
  let s1 ← positionFrom? '-' (start + 1) text
  let s2 ← positionFrom? '-' (s1 + 1) text
  return (s1, s2)

def readByPositions (text : List Char) : Reading Date := do
  let start := if text.head? = some '+' then 1 else 0
  let (s1, s2) ← .found text (dashPositions? start text)
  let yearText ← .slice (between? start s1 text)
  let year ← .found text (readInt32? yearText)
  let monthText ← .slice (between? (s1 + 1) s2 text)
  let month ← .found text (readInt32? monthText)
  let dayText ← .slice (from? (s2 + 1) text)
  let day ← .found text (readInt32? dayText)
  .answer (ofFields year month day)

variable {text sign : List Char} {start : Nat}

/-- The dashes are where the fields are cut. A first character of several bytes hides them. -/
theorem dashPositions?_eq {c : Char} {body : List Char} (h : text = sign ++ c :: body)
    (hstart : start = byteCount sign) :
    dashPositions? start text =
      if c.utf8Size = 1 then
        (splitFields (c :: body)).map fun (year, month, _) =>
          (start + byteCount year, start + byteCount year + 1 + byteCount month)
      else none := by
  unfold dashPositions? splitFields
  rw [positionFrom?_succ sign c body h hstart]
  split
  next hone =>
    cases hyear : cut '-' body with
    | none => simp only [hyear, Option.map_none, Option.bind_eq_bind, Option.bind_none]
    | some halves =>
      obtain ⟨year, rest⟩ := halves
      have hbody := eq_of_cutNth_eq_some hyear
      have hsecond : positionFrom? '-' (start + 1 + byteCount year + 1) text =
          (cut '-' rest).map fun halves => start + 1 + byteCount year + 1 + byteCount halves.1 :=
        (positionFrom?_succ (sign ++ c :: year) '-' rest (by simp [h, hbody])
          (by simp [hstart, hone, Nat.add_assoc])).trans (if_pos rfl)
      simp only [hyear, Option.map_some, Option.bind_eq_bind, Option.bind_some, hsecond]
      cases cut '-' rest with
      | none => rfl
      | some halves => simp [hone, Nat.add_assoc]
  next hmany => rfl

/-- The fields of a date stand in its text in order, with two dashes between them. -/
theorem exists_of_splitFields_eq_some {c : Char} {body year month day : List Char}
    (h : splitFields (c :: body) = some (year, month, day)) :
    ∃ rest, year = c :: rest ∧ body = rest ++ '-' :: (month ++ '-' :: day) := by
  obtain ⟨htext, ⟨first, rest, rfl, -⟩, -⟩ := splitFields_eq_some_iff.1 h
  obtain ⟨rfl, rfl⟩ := List.cons.inj htext
  exact ⟨rest, rfl, rfl⟩

/-- The slices between the positions of the dashes are the three fields. -/
theorem slices_eq {year month day : List Char}
    (h : text = sign ++ (year ++ '-' :: (month ++ '-' :: day))) (hstart : start = byteCount sign) :
    between? start (start + byteCount year) text = some year ∧
    between? (start + byteCount year + 1) (start + byteCount year + 1 + byteCount month) text =
      some month ∧
    from? (start + byteCount year + 1 + byteCount month + 1) text = some day := by
  have hdash : '-'.utf8Size = 1 := rfl
  refine ⟨between?_eq sign year _ h hstart (by rw [hstart]), ?_, ?_⟩
  · exact between?_eq (sign ++ year ++ ['-']) month ('-' :: day) (by simp [h])
      (by simp [hstart, hdash]; omega)
      (by simp [hstart, hdash]; omega)
  · exact from?_eq (sign ++ year ++ '-' :: month ++ ['-']) day (by simp [h])
      (by simp [hstart, hdash]; omega)

/-- The date that is read by positions is that of the fields that are cut out, and every slice of
the text exists. -/
theorem readByPositions_eq (text : List Char) : readByPositions text = .answer (read text) := by
  -- the plus that both readers leave out, if there is one
  obtain ⟨sign, body, htext, hstart, hbody⟩ : ∃ sign body, text = sign ++ body ∧
      (if text.head? = some '+' then 1 else 0) = byteCount sign ∧
      (if text.head? = some '+' then text.tail else text) = body := by
    by_cases hplus : text.head? = some '+'
    · obtain ⟨body, rfl⟩ := List.head?_eq_some_iff.1 hplus
      exact ⟨['+'], body, rfl, rfl, rfl⟩
    · exact ⟨[], text, rfl, if_neg hplus, if_neg hplus⟩
  unfold readByPositions read readFields?
  dsimp only
  rw [hstart, hbody]
  cases body with
  | nil =>
    obtain rfl : text = sign := by simpa using htext
    have hnone : dashPositions? (byteCount text) text = none := by
      simp [dashPositions?, positionFrom?_byteCount_succ]
    rw [hnone]
    rfl
  | cons c rest =>
    rw [dashPositions?_eq htext rfl]
    cases hsplit : splitFields (c :: rest) with
    | none => split <;> rfl
    | some fields =>
      obtain ⟨year, month, day⟩ := fields
      obtain ⟨rest, rfl, rfl⟩ := exists_of_splitFields_eq_some hsplit
      split
      next hone =>
        obtain ⟨hyear, hmonth, hday⟩ := @slices_eq text sign _ (c :: rest) month day htext rfl
        simp only [Option.map_some, Reading.found_some, Reading.bind_answer_ok, hyear, hmonth, hday,
          Reading.bind_slice_some]
        cases readInt32? (c :: rest) <;> cases readInt32? month <;> cases readInt32? day <;> rfl
      next hmany =>
        -- the dashes are hidden here, but such a character is none of a number either
        simp [readInt32?_cons_eq_none hmany]

end Date

/-! ## Times -/

namespace Clock

/-- The positions of the first two separators, the first of which is not the start. -/
def separatorPositions? (sep : Char) (text : List Char) : Option (Nat × Nat) := do
  let s1 ← (position? sep text).filter (0 < ·)
  let s2 ← positionFrom? sep (s1 + 1) text
  return (s1, s2)

/-- The seconds and the nanoseconds from a position of a text on. -/
def secondsByPositions (text : List Char) (start : Nat) : Reading (Int × Int) :=
  match positionFrom? '.' start text with
  | none => do
    let secondText ← .slice (from? start text)
    let second ← .found text (readInt32? secondText)
    return (second, 0)
  | some s3 => do
    let secondText ← .slice (between? start s3 text)
    let second ← .found text (readInt32? secondText)
    let fractionText ← .slice (from? (s3 + 1) text)
    let fraction ← .found text (readFraction? fractionText)
    return (second, fraction)

/-- Whether the fields are those of a time is looked at in the end, so that every slice is taken. -/
def readByPositions (mode : Mode) (text : List Char) : Reading Int := do
  let (s1, s2) ← .found text ((separatorPositions? ':' text).or (separatorPositions? '.' text))
  let hourText ← .slice (upTo? s1 text)
  let hour ← .found text (readInt32? hourText)
  let minuteText ← .slice (between? (s1 + 1) s2 text)
  let minute ← .found text (readInt32? minuteText)
  let (second, fraction) ← secondsByPositions text (s2 + 1)
  .found text (ofParts? mode (text.head? == some '-') hour minute second fraction)

/-- The positions of two separators are where the fields before them end. -/
theorem separatorPositions?_eq {sep : Char} (hsep : sep.utf8Size = 1) (text : List Char) :
    separatorPositions? sep text =
      (splitAtSeparator sep text).map fun (hour, minute, _) =>
        (byteCount hour, byteCount hour + 1 + byteCount minute) := by
  unfold separatorPositions? splitAtSeparator
  rw [position?_eq]
  cases hhour : cut sep text with
  | none => rfl
  | some halves =>
    obtain ⟨hour, rest⟩ := halves
    have htext := eq_of_cutNth_eq_some hhour
    dsimp only
    by_cases hempty : hour = []
    · simp [hempty]
    · have hpos : 0 < byteCount hour :=
        Nat.pos_of_ne_zero fun hzero => hempty (byteCount_eq_zero_iff.1 hzero)
      have hsecond : positionFrom? sep (byteCount hour + 1) text =
          (cut sep rest).map fun halves => byteCount hour + 1 + byteCount halves.1 :=
        (positionFrom?_succ hour sep rest htext rfl).trans (if_pos hsep)
      simp only [Option.map_some, Option.filter_some, hpos, decide_true, if_true,
        Option.bind_eq_bind, Option.bind_some, hsecond, if_neg hempty]
      cases cut sep rest <;> rfl

/-- The seconds that are read from a position on are those of the text after it. -/
theorem secondsByPositions_eq {text : List Char} {start : Nat} (before second : List Char)
    (h : text = before ++ second) (hstart : start = byteCount before) :
    secondsByPositions text start = .found text (readSeconds? second) := by
  have hpoint : '.'.utf8Size = 1 := rfl
  unfold secondsByPositions readSeconds?
  rw [positionFrom?_eq before second h hstart]
  cases hcut : cut '.' second with
  | none =>
    have hslice := from?_eq before second h hstart
    simp only [Option.map_none, hslice, Reading.bind_slice_some]
    cases readInt32? second <;> rfl
  | some halves =>
    obtain ⟨whole, fraction⟩ := halves
    have hsecond := eq_of_cutNth_eq_some hcut
    rw [hsecond] at h
    have hwhole : between? start (start + byteCount whole) text = some whole :=
      between?_eq before whole ('.' :: fraction) h hstart (by rw [hstart])
    have hfraction : from? (start + byteCount whole + 1) text = some fraction :=
      from?_eq (before ++ whole ++ ['.']) fraction (by simp [h]) (by simp [hstart, hpoint]; omega)
    simp only [Option.map_some, hwhole, hfraction, Reading.bind_slice_some]
    cases readInt32? whole <;> cases readFraction? fraction <;> rfl

/-- Read by positions or by splitting, a time is the same, and no slice is missing. -/
theorem readByPositions_eq (mode : Mode) (text : List Char) :
    readByPositions mode text = .answer (read mode text) := by
  unfold readByPositions read read?
  rw [separatorPositions?_eq rfl, separatorPositions?_eq rfl, ← Option.map_or]
  cases hsplit : (splitAtSeparator ':' text).or (splitAtSeparator '.' text) with
  | none => rfl
  | some fields =>
    obtain ⟨hour, minute, second⟩ := fields
    obtain ⟨sep, hsep, htext⟩ : ∃ sep : Char, sep.utf8Size = 1 ∧
        text = hour ++ sep :: (minute ++ sep :: second) := by
      rcases Option.or_eq_some_iff.1 hsplit with hcolon | ⟨-, hpoint⟩
      · exact ⟨':', rfl, (splitAtSeparator_eq_some_iff.1 hcolon).1⟩
      · exact ⟨'.', rfl, (splitAtSeparator_eq_some_iff.1 hpoint).1⟩
    have hhour := upTo?_eq hour _ htext rfl
    have hminute : between? (byteCount hour + 1) (byteCount hour + 1 + byteCount minute) text =
        some minute :=
      between?_eq (hour ++ [sep]) minute (sep :: second) (by simp [htext]) (by simp [hsep])
        (by simp [hsep])
    have hsecond : secondsByPositions text (byteCount hour + 1 + byteCount minute + 1) =
        .found text (readSeconds? second) :=
      secondsByPositions_eq (hour ++ sep :: minute ++ [sep]) second (by simp [htext])
        (by simp [hsep]; omega)
    simp only [Option.map_some, Reading.found_some, Reading.bind_answer_ok, hhour, hminute, hsecond,
      Reading.bind_slice_some]
    cases readInt32? hour with
    | none => rfl
    | some hour =>
      cases readInt32? minute with
      | none => rfl
      | some minute =>
        cases readSeconds? second with
        | none => rfl
        | some seconds =>
          dsimp only [Reading.found_some, Reading.bind_answer_ok]
          cases ofParts? mode (text.head? == some '-') hour minute seconds.1 seconds.2 <;> rfl

end Clock

/-! ## Timestamps -/

/-- The text of the time and what tells the zone. -/
def ZoneDesignator.splitOffByPositions (text : List Char) :
    Reading (List Char × Option ZoneDesignator) :=
  if text.getLast? = some 'Z' then .answer (.ok (text.dropLast, some .utc))
  else do
    let space := position? ' ' text
    let head ← .slice (upTo? (space.getD (byteCount text)) text)
    match (position? '+' head).or (position? '-' head) with
    | some sign => do
      let time ← .slice (upTo? sign text)
      let offset ← .slice (from? sign text)
      return (time, some (.offset offset))
    | none =>
      match space with
      | some space => do
        let time ← .slice (upTo? space text)
        let name ← .slice (from? (space + 1) text)
        return (time, some (.named name))
      | none => return (text, none)

/-- The position of the separator of date and time. -/
def dateTimeBoundary (dialect : Dialect) (text : List Char) : Reading (Option Nat) :=
  match (position? ' ' text).or (position? 'T' text) with
  | some boundary => return some boundary
  | none =>
    if dialect.dashDateTimeSeparator then do
      let start := if text.head? = some '+' ∨ text.head? = some '-' then 1 else 0
      let rest ← .slice (from? start text)
      return (nthPosition? '-' 2 rest).map (start + ·)
    else return none

namespace ZoneDesignator

/-- The zone is split off at the same place by positions. -/
theorem splitOffByPositions_eq (text : List Char) :
    splitOffByPositions text = .answer (.ok (splitOff text)) := by
  unfold splitOffByPositions splitOff
  split
  next hutc => rfl
  next hutc =>
    have htext := List.takeWhile_append_dropWhile (p := (· != ' ')) (l := text)
    simp only [upTo?_position?, Reading.bind_slice_some]
    by_cases hplus : '+' ∈ text.takeWhile (· != ' ')
    · obtain ⟨p, hp, htime, hoffset⟩ := slices_at_mem hplus (text.dropWhile (· != ' '))
      rw [htext] at htime hoffset
      simp only [if_pos hplus, hp, Option.some_or, htime, hoffset, Reading.bind_slice_some]
      rfl
    · by_cases hminus : '-' ∈ text.takeWhile (· != ' ')
      · obtain ⟨p, hp, htime, hoffset⟩ := slices_at_mem hminus (text.dropWhile (· != ' '))
        rw [htext] at htime hoffset
        simp only [if_neg hplus, if_pos hminus, position?_eq_none hplus, hp, Option.none_or, htime,
          hoffset, Reading.bind_slice_some]
        rfl
      · simp only [if_neg hplus, if_neg hminus, position?_eq_none hplus, position?_eq_none hminus,
          Option.none_or, position?_eq]
        cases hcut : cut ' ' text with
        | none => rfl
        | some halves =>
          obtain ⟨time, name⟩ := halves
          have hsplit := eq_of_cutNth_eq_some hcut
          have htime := upTo?_eq time (' ' :: name) hsplit rfl
          have hname : from? (byteCount time + 1) text = some name :=
            from?_eq (time ++ [' ']) name (by simp [hsplit]) (by simp; rfl)
          simp only [Option.map_some, htime, hname, Reading.bind_slice_some]
          rfl

end ZoneDesignator

/-- The boundary of date and time is the position where the date ends. -/
theorem dateTimeBoundary_eq (dialect : Dialect) (text : List Char) :
    dateTimeBoundary dialect text =
      .answer (.ok ((splitDateTime dialect text).map fun halves => byteCount halves.1)) := by
  unfold dateTimeBoundary splitDateTime
  rw [position?_eq, position?_eq]
  cases cut ' ' text with
  | some halves => rfl
  | none =>
    cases cut 'T' text with
    | some halves => rfl
    | none =>
      simp only [Option.map_none, Option.or_none]
      split
      next hdash =>
        have hfrom (sign : Char) (hsign : sign.utf8Size = 1) (rest : List Char) :
            from? 1 (sign :: rest) = some rest := (from?_one sign rest).trans (if_pos hsign)
        split
        next hsigned =>
          obtain hplus | hminus := hsigned
          · obtain ⟨rest, rfl⟩ := List.head?_eq_some_iff.1 hplus
            simp only [hfrom '+' rfl, Reading.bind_slice_some, nthPosition?_eq, Option.map_map]
            rfl
          · obtain ⟨rest, rfl⟩ := List.head?_eq_some_iff.1 hminus
            simp only [hfrom '-' rfl, Reading.bind_slice_some, nthPosition?_eq, Option.map_map]
            rfl
        next hunsigned =>
          have hwhole : from? 0 text = some text := from?_eq [] text rfl rfl
          rw [hwhole, Reading.bind_slice_some, nthPosition?_eq]
          split
          · exact absurd (Or.inl rfl) hunsigned
          · exact absurd (Or.inr rfl) hunsigned
          · simp only [Nat.zero_add, Option.map_map]
            rfl
      · rfl

/-- Date and time are parted by one character, which has one byte. -/
theorem exists_of_splitDateTime_eq_some {dialect : Dialect} {text date rest : List Char}
    (h : splitDateTime dialect text = some (date, rest)) :
    ∃ sep : Char, sep.utf8Size = 1 ∧ text = date ++ sep :: rest := by
  unfold splitDateTime at h
  split at h
  next halves hspace =>
    cases h
    exact ⟨' ', rfl, eq_of_cutNth_eq_some hspace⟩
  · split at h
    next halves hletter =>
      cases h
      exact ⟨'T', rfl, eq_of_cutNth_eq_some hletter⟩
    · split at h
      · refine ⟨'-', rfl, ?_⟩
        split at h
        · obtain ⟨⟨date', rest'⟩, hcut, heq⟩ := Option.map_eq_some_iff.1 h
          cases heq
          rw [eq_of_cutNth_eq_some hcut, List.cons_append]
        · obtain ⟨⟨date', rest'⟩, hcut, heq⟩ := Option.map_eq_some_iff.1 h
          cases heq
          rw [eq_of_cutNth_eq_some hcut, List.cons_append]
        · exact eq_of_cutNth_eq_some h
      · cases h

def WrittenTimestamp.readByPositions (source : ZoneSource) (dialect : Dialect) (text : List Char) :
    Reading WrittenTimestamp := do
  match ← dateTimeBoundary dialect text with
  | none => do
    let date ← Date.readByPositions text
    return ⟨date, 0, none⟩
  | some dateEnd => do
    let dateText ← .slice (upTo? dateEnd text)
    let date ← Date.readByPositions dateText
    let rest ← .slice (from? (dateEnd + 1) text)
    let (timeText, designator) ← ZoneDesignator.splitOffByPositions rest
    let nanos ← Clock.readByPositions .timeOfDay timeText
    match designator with
    | none => return ⟨date, nanos, none⟩
    | some designator => do
      let zone ← .answer (designator.resolve source)
      return ⟨date, nanos, some zone⟩

/-- Read by positions or by splitting, a timestamp is the same, and no slice is missing. -/
theorem WrittenTimestamp.readByPositions_eq (source : ZoneSource) (dialect : Dialect)
    (text : List Char) :
    readByPositions source dialect text = .answer (read source dialect text) := by
  unfold readByPositions read
  rw [dateTimeBoundary_eq, Reading.bind_answer_ok]
  cases hsplit : splitDateTime dialect text with
  | none =>
    simp only [Option.map_none, Date.readByPositions_eq]
    cases Date.read text <;> rfl
  | some halves =>
    obtain ⟨dateText, rest⟩ := halves
    obtain ⟨sep, hsep, htext⟩ := exists_of_splitDateTime_eq_some hsplit
    have hdate := upTo?_eq dateText (sep :: rest) htext rfl
    have hrest : from? (byteCount dateText + 1) text = some rest :=
      from?_eq (dateText ++ [sep]) rest (by simp [htext]) (by simp [hsep])
    simp only [Option.map_some, hdate, hrest, Reading.bind_slice_some, Date.readByPositions_eq,
      ZoneDesignator.splitOffByPositions_eq, Clock.readByPositions_eq, Reading.bind_answer_ok]
    cases Date.read dateText with
    | error e => rfl
    | ok date =>
      rw [Reading.bind_answer_ok]
      cases Clock.read .timeOfDay (ZoneDesignator.splitOff rest).1 with
      | error e => rfl
      | ok nanos =>
        rw [Reading.bind_answer_ok]
        cases (ZoneDesignator.splitOff rest).2 with
        | none => rfl
        | some designator =>
          dsimp only
          cases designator.resolve source <;> rfl

/-! ## Literals -/

namespace Session

/-- A timestamp of a text, if no slice is missing. -/
def readTimestampByPositions (dialect : Dialect) (wantOffset : Bool) (text : List Char)
    (session : Session) : Option (Except Error Literal × Session) :=
  (WrittenTimestamp.readByPositions session.context.source dialect text).run.map fun result =>
    (do
      let written ← ask fun _ => result
      match written.zone with
      | none => return written.zoneless wantOffset
      | some zone => zonedTimestamp wantOffset zone written.date written.nanos : Action Literal)
      session

/-- The literal of a text, if no slice is missing. -/
def readLiteralByPositions (dialect : Dialect) (kind : LiteralKind) (text : List Char)
    (session : Session) : Option (Except Error Literal × Session) :=
  match kind with
  | .date => (Date.readByPositions text).run.map fun result => (result.map .date, session)
  | .time =>
    (Clock.readByPositions .timeOfDay text).run.map fun result => (result.map .time, session)
  | .timestamp => readTimestampByPositions dialect false text session
  | .timestampWithTimeZone => readTimestampByPositions dialect true text session

/-- A timestamp that is read by positions is answered as the reader that splits answers it. -/
theorem readTimestampByPositions_eq (dialect : Dialect) (wantOffset : Bool) (text : List Char)
    (session : Session) :
    readTimestampByPositions dialect wantOffset text session =
      some (readTimestamp dialect wantOffset text session) := by
  unfold readTimestampByPositions
  rw [WrittenTimestamp.readByPositions_eq]
  rfl

/-- A literal is read by positions as it is read by cuts, and leaves the same session behind. No
slice is missing, whatever characters the text has. -/
theorem readLiteralByPositions_eq (dialect : Dialect) (kind : LiteralKind) (text : List Char)
    (session : Session) :
    readLiteralByPositions dialect kind text session =
      some (readLiteral dialect kind text session) := by
  cases kind with
  | date =>
    unfold readLiteralByPositions
    dsimp only
    rw [Date.readByPositions_eq]
    rfl
  | time =>
    unfold readLiteralByPositions
    dsimp only
    rw [Clock.readByPositions_eq]
    rfl
  | timestamp => exact readTimestampByPositions_eq dialect false text session
  | timestampWithTimeZone => exact readTimestampByPositions_eq dialect true text session

end Session

end CivilTime
