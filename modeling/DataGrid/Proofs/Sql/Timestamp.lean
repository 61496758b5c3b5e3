import DataGrid.Proofs.Database.Moment
import DataGrid.Proofs.Sql.DateFormat
import DataGrid.Proofs.Time.Digits
import DataGrid.Row.Cells

/-!
# Moments as they are shown and as they are searched

A moment is shown by reading its format directly, and searched by having the
database write it in the spelling of the format.  Up to the end of the year
9999 the database writes what is shown, except for the quotation marks, which
the spelling leaves out, and the seconds since the epoch, for which the
spelling has no specifier of its own.
-/

namespace DataGrid.Time

@[simp]
theorem Zone.moment_universal (seconds : Int) :
    universal.moment seconds = .ofSeconds seconds := by
  simp [moment, universal, Offset.universal, Moment.ofSeconds]

theorem Zone.ofSetting_universal (localTime : LocalTime) (seconds : Int) :
    ofSetting localTime "UTC" seconds = universal := by
  have other : Text.sameLetters "UTC" "localtime" = false := by decide
  simp [ofSetting, other]

variable {moment : Moment} {zone : Zone}

theorem writeItems_append {items more : List Item} {first second : List Char}
    (writes : writeItems moment zone items = some first)
    (writesMore : writeItems moment zone more = some second) :
    writeItems moment zone (items ++ more) = some (first ++ second) := by
  induction items generalizing first with
  | nil =>
      obtain rfl := Option.some.inj writes
      exact writesMore
  | cons item rest ih =>
      simp only [writeItems, Option.bind_eq_bind, Option.bind_eq_some_iff,
        Option.pure_def, Option.some.injEq] at writes
      obtain ⟨part, part_eq, others, others_eq, rfl⟩ := writes
      simp [writeItems, part_eq, ih others_eq]

theorem writeItems_number (part : Part) (pad : Pad) :
    writeItems moment zone [.number part pad] =
      some (part.write moment pad) := by
  simp [writeItems, Item.write]

end DataGrid.Time

namespace DataGrid.Sql

open Time

variable {moment : Moment} {zone : Zone}

/-- Every specifier of SQLite can be displayed. -/
theorem exists_writeItems_of_known {letter : Char} {spelling : String}
    (known : Dialect.sqlite.specifier? letter = some spelling) :
    ∃ shown,
      writeItems moment zone ((letterItems letter).getD []) = some shown := by
  rcases specifier?_sqlite_cases known with ⟨rfl, -⟩ | ⟨rfl, -⟩ | ⟨rfl, -⟩ |
    ⟨rfl, -⟩ | ⟨rfl, -⟩ | ⟨rfl, -⟩ | ⟨rfl, -⟩ | ⟨rfl, -⟩ | ⟨rfl, -⟩ <;>
    exact ⟨_, rfl⟩

/-- What is displayed for a specifier is what a database writes for it, unless
the seconds since the epoch are asked for. -/
theorem momentPart_of_known (ordinary : moment.Ordinary) {letter : Char}
    {spelling : String} {shown : List Char}
    (known : Dialect.sqlite.specifier? letter = some spelling)
    (timeless : unpadded .timestamp ∉ (letterItems letter).getD [])
    (displays :
      writeItems moment zone ((letterItems letter).getD []) = some shown) :
    spelling.toList = ['%', letter] ∧
      Database.momentPart moment letter = some shown ∧ '\'' ∉ shown := by
  -- The display fills its numbers up with zeros, the database cuts them to a
  -- fixed width; within the bounds both come to the same digits.
  have number (part : Part) (pad : Pad) {count value : Nat}
      (writes : part.write moment pad = Instant.fixedDigits count value)
      (displays : writeItems moment zone [.number part pad] = some shown) :
      some (Instant.fixedDigits count value) = some shown ∧ '\'' ∉ shown := by
    rw [writeItems_number, writes] at displays
    obtain rfl := Option.some.inj displays
    exact ⟨rfl, Instant.quote_notMem_fixedDigits count value⟩
  rcases specifier?_sqlite_cases known with year | month | day | hour |
    minute | second | epoch | weekday | percent
  · obtain ⟨rfl, rfl⟩ := year
    exact ⟨rfl, number .year .zero (yearDigits_eq_fixedDigits
      ordinary.year_nonneg ordinary.year_le) displays⟩
  · obtain ⟨rfl, rfl⟩ := month
    exact ⟨rfl, number .month .zero
      (twoDigits_eq_fixedDigits ordinary.month_lt) displays⟩
  · obtain ⟨rfl, rfl⟩ := day
    exact ⟨rfl, number .day .zero
      (twoDigits_eq_fixedDigits ordinary.day_lt) displays⟩
  · obtain ⟨rfl, rfl⟩ := hour
    exact ⟨rfl, number .hour .zero
      (twoDigits_eq_fixedDigits ordinary.hour_lt) displays⟩
  · obtain ⟨rfl, rfl⟩ := minute
    exact ⟨rfl, number .minute .zero
      (twoDigits_eq_fixedDigits ordinary.minute_lt) displays⟩
  · obtain ⟨rfl, rfl⟩ := second
    exact ⟨rfl, number .second .zero
      (twoDigits_eq_fixedDigits ordinary.second_lt) displays⟩
  · obtain ⟨rfl, rfl⟩ := epoch
    exact absurd List.mem_cons_self timeless
  · obtain ⟨rfl, rfl⟩ := weekday
    have weekday_lt := Nat.lt_trans moment.weekday_lt (by decide : 7 < 10)
    exact ⟨rfl, number .weekdayFromSunday .nothing
      (toDigits_eq_fixedDigits weekday_lt) displays⟩
  · obtain ⟨rfl, rfl⟩ := percent
    obtain rfl := Option.some.inj displays
    exact ⟨rfl, rfl, by decide⟩

/-- What the items of a format show is what a database writes for its spelling,
but for the quotation marks that stand in the format itself. -/
structure Agrees (moment : Moment) (zone : Zone) (text : List Char)
    (items : List Item) (spelling shown : List Char) : Prop where
  displays : writeItems moment zone items = some shown
  writes : unpadded .timestamp ∉ items → ∀ rest,
    Database.writeMoment moment (spelling ++ rest) =
      (Database.writeMoment moment rest).map
        (shown.filter (· != '\'') ++ ·)
  quotes : unpadded .timestamp ∉ items → '\'' ∈ shown → '\'' ∈ text

namespace Agrees

theorem nil : Agrees moment zone [] [] [] [] where
  displays := rfl
  writes _ rest := by simp
  quotes _ := id

theorem append {text more : List Char} {items others : List Item}
    {spelling second shown later : List Char}
    (first : Agrees moment zone text items spelling shown)
    (last : Agrees moment zone more others second later) :
    Agrees moment zone (text ++ more) (items ++ others) (spelling ++ second)
      (shown ++ later) where
  displays := writeItems_append first.displays last.displays
  writes timeless rest := by
    rw [List.mem_append, not_or] at timeless
    rw [List.append_assoc, first.writes timeless.1, last.writes timeless.2,
      Option.map_map, List.filter_append]
    simp [Function.comp_def]
  quotes timeless member := by
    rw [List.mem_append, not_or] at timeless
    rw [List.mem_append] at member ⊢
    exact member.imp (first.quotes timeless.1) (last.quotes timeless.2)

end Agrees

theorem agrees_literal {character : Char} (plain : character ≠ '%') :
    Agrees moment zone [character] [.literal [character]]
      (if character == '\'' then [] else [character]) [character] where
  displays := by simp [writeItems, Item.write]
  writes _ rest := by
    by_cases quote : character = '\''
    · simp [quote]
    · simp [quote, Database.writeMoment_literal plain]
  quotes _ := id

theorem agrees_specifier (ordinary : moment.Ordinary) {letter : Char}
    {spelling : String}
    (known : Dialect.sqlite.specifier? letter = some spelling) :
    ∃ shown, Agrees moment zone ['%', letter] ((letterItems letter).getD [])
      spelling.toList shown := by
  obtain ⟨shown, displays⟩ := exists_writeItems_of_known known
  refine ⟨shown, displays, fun timeless rest => ?_, fun timeless member => ?_⟩
  · obtain ⟨spelling_eq, written, notQuote⟩ :=
      momentPart_of_known ordinary known timeless displays
    have kept : shown.filter (· != '\'') = shown :=
      List.filter_eq_self.mpr fun character member =>
        bne_iff_ne.mpr fun same => notQuote (same ▸ member)
    rw [spelling_eq, kept]
    exact Database.writeMoment_specifier written rest
  · obtain ⟨-, -, notQuote⟩ :=
      momentPart_of_known ordinary known timeless displays
    exact absurd member notQuote

/-- The display and the database read a format in the same pieces. -/
theorem agrees_pieces (ordinary : moment.Ordinary) (zone : Zone)
    (pieces : List (FormatPiece .sqlite)) :
    ∃ shown, Agrees moment zone (pieces.flatMap FormatPiece.text)
      (pieces.flatMap FormatPiece.items) (pieces.flatMap FormatPiece.spelled)
      shown := by
  induction pieces with
  | nil => exact ⟨[], .nil⟩
  | cons piece rest ih =>
      obtain ⟨later, last⟩ := ih
      cases piece with
      | literal character plain =>
          exact ⟨_, (agrees_literal plain).append last⟩
      | specifier letter spelling known =>
          obtain ⟨shown, first⟩ := agrees_specifier ordinary known
          exact ⟨_, first.append last⟩

namespace Dialect

/-- A date format that is accepted has a spelling. -/
theorem respell_of_dateFormat {dialect : Dialect} {format spelling : String}
    (accepted : dialect.dateFormat format = .ok spelling) :
    dialect.respell format.toList = .ok spelling.toList := by
  unfold dateFormat at accepted
  split at accepted
  · rename_i spelled spells
    obtain rfl := Except.ok.inj accepted
    rw [String.toList_ofList, spells]
  · simp at accepted
  · simp at accepted

/-- A moment up to the end of the year 9999 is shown in every format that SQLite
can spell, and SQLite writes the same text without its quotation marks, unless
the seconds since the epoch are asked for. -/
theorem formatTimestamp_agrees (localTime : LocalTime) (column format : String)
    {seconds : Int} (after : 1 ≤ seconds) (within : seconds ≤ 253402300799)
    {sql : String}
    (accepted : sqlite.formatTimestamp column format "UTC" = .ok sql) :
    ∃ (displayed spelling : String) (items : List Item),
      Json.formatMoment localTime (.ofInt seconds) format "UTC" =
        .ok displayed ∧
      sql = s!"CASE WHEN {column} > 0 THEN strftime('{spelling}', {column}, " ++
        "'unixepoch') ELSE '' END" ∧
      '\'' ∉ spelling.toList ∧
      Time.items? format.toList = some items ∧
      (unpadded .timestamp ∉ items →
        Database.formatMoment .universal (.ofInt seconds) spelling.toList =
            some (displayed.toList.filter (· != '\'')) ∧
          ('\'' ∉ format.toList →
            Database.formatMoment .universal (.ofInt seconds)
                spelling.toList =
              some displayed.toList)) := by
  have ordinary := Moment.ordinary_ofSeconds (by omega) within
  obtain ⟨spelling, spells, accepted⟩ := (bind_eq_ok_iff _ _ _).mp accepted
  obtain rfl := Except.ok.inj accepted
  -- The format is taken apart once; what is shown and what is searched are
  -- read off the same pieces.
  obtain ⟨pieces, format_eq, spelling_eq⟩ :=
    FormatPiece.exists_of_respell (respell_of_dateFormat spells)
  obtain ⟨shown, agrees⟩ := agrees_pieces ordinary Zone.universal pieces
  have items_eq : Time.items? format.toList =
      some (pieces.flatMap FormatPiece.items) := by
    rw [format_eq, FormatPiece.items?_of_pieces]
  refine ⟨String.ofList shown, spelling, pieces.flatMap FormatPiece.items,
    ?_, ?_, ?_, items_eq, fun timeless => ?_⟩
  · have fits : Decimal.fits seconds = true := by
      unfold Decimal.fits Decimal.least Decimal.greatest
      rw [Bool.and_eq_true, decide_eq_true_iff, decide_eq_true_iff]
      omega
    have seconds_eq : (Json.ofInt seconds).seconds? = some seconds := by
      simp [Json.ofInt, Json.seconds?, fits]
    have positive : 0 < seconds := by omega
    simp [Json.formatMoment, seconds_eq, positive, Time.formatSeconds,
      items_eq, Moment.ofSeconds?_eq_some ordinary, Zone.ofSetting_universal,
      agrees.displays]
  · have notLocal : isLocal (stripQuotes "UTC") = false := by decide
    rw [notLocal]
    rfl
  · rw [spelling_eq]
    exact FormatPiece.quote_notMem_spelled pieces
  · have written :
        Database.formatMoment .universal (.ofInt seconds) spelling.toList =
          some (shown.filter (· != '\'')) := by
      have writes := agrees.writes timeless []
      rw [List.append_nil] at writes
      rw [Database.formatMoment_ofInt (by omega) within, spelling_eq, writes]
      simp [Database.writeMoment]
    rw [String.toList_ofList]
    refine ⟨written, fun plain => ?_⟩
    rw [written, List.filter_eq_self.mpr]
    intro character member
    refine bne_iff_ne.mpr fun same => plain ?_
    rw [format_eq]
    exact agrees.quotes timeless (same ▸ member)

/-- A day of a winter as it is shown and as it is searched. -/
theorem winter_formatTimestamp_agrees :
    ∃ sql displayed spelling : String,
      sqlite.formatTimestamp "t" "%d.%m.%Y" "UTC" = .ok sql ∧
      Json.formatMoment .universal (.ofInt 1707400800) "%d.%m.%Y" "UTC" =
        .ok displayed ∧
      displayed = "08.02.2024" ∧
      Database.formatMoment .universal (.ofInt 1707400800) spelling.toList =
        some displayed.toList := by
  have accepted : ∃ sql,
      sqlite.formatTimestamp "t" "%d.%m.%Y" "UTC" = .ok sql :=
    ⟨_, rfl⟩
  obtain ⟨sql, accepted⟩ := accepted
  obtain ⟨displayed, spelling, items, displays, -, -, items_eq, writes⟩ :=
    formatTimestamp_agrees .universal "t" "%d.%m.%Y"
      (by decide : (1 : Int) ≤ 1707400800) (by decide) accepted
  have timeless : unpadded .timestamp ∉ items := by
    have read : (Time.items? "%d.%m.%Y".toList).all
        (unpadded .timestamp ∉ ·) = true := by
      decide +kernel
    rw [items_eq] at read
    simpa using read
  have text : Json.formatMoment .universal (.ofInt 1707400800) "%d.%m.%Y"
      "UTC" = .ok "08.02.2024" := by
    rfl
  exact ⟨sql, displayed, spelling, accepted, displays,
    Except.ok.inj (displays.symm.trans text), (writes timeless).2 (by decide)⟩

/-- A quotation mark is shown but not searched, and what is shown as the seconds
since the epoch is searched as the seconds of the minute. -/
theorem quoted_and_epoch_formats_disagree :
    (sqlite.formatTimestamp "t" "%H'%M" "UTC" =
        .ok
          "CASE WHEN t > 0 THEN strftime('%H%M', t, 'unixepoch') ELSE '' END" ∧
      Json.formatMoment .universal (.ofInt 1707400800) "%H'%M" "UTC" =
        .ok "14'00" ∧
      Database.formatMoment .universal (.ofInt 1707400800) "%H%M".toList =
        some "1400".toList) ∧
    (sqlite.formatTimestamp "t" "%s" "UTC" =
        .ok
          "CASE WHEN t > 0 THEN strftime('%S', t, 'unixepoch') ELSE '' END" ∧
      Json.formatMoment .universal (.ofInt 1707400800) "%s" "UTC" =
        .ok "1707400800" ∧
      Database.formatMoment .universal (.ofInt 1707400800) "%S".toList =
        some "00".toList) := by
  refine ⟨⟨?_, ?_, ?_⟩, ?_, ?_, ?_⟩
  · rfl
  · rfl
  · decide +kernel
  · rfl
  · rfl
  · decide +kernel

end Dialect

end DataGrid.Sql
