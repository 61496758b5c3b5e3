import DataGrid.Database.Moment
import DataGrid.Proofs.Decimal.Exact

/-!
# Moments that a database writes

The database brings a whole number of seconds into its own form and back
without a loss, up to the end of the year 9999.
-/

namespace DataGrid.Database

open Double

/-- The milliseconds before the limit are few enough to be exact numbers, also
with a half. -/
theorem millisecondsOf?_ofInt {seconds : Int} (after : 0 ≤ seconds)
    (within : seconds ≤ 253402300799) :
    millisecondsOf? (.ofInt seconds) =
      some (seconds * 1000 + originDistance) := by
  obtain ⟨count, rfl⟩ := Int.eq_ofNat_of_zero_le after
  have count_le : count ≤ 253402300799 := by exact_mod_cast within
  have origin : (.ofInt originDistance : Double) =
      .ofRatio false 210866760000000 (2 ^ 0) :=
    ofInt_natCast 210866760000000
  have scaled : (Double.mul (.ofInt count) (.ofInt 1000)).add
      (.ofInt originDistance) =
        .ofRatio false (count * 1000 + 210866760000000) (2 ^ 0) := by
    have thousand : (.ofInt 1000 : Double) = .ofRatio false 1000 (2 ^ 0) :=
      ofInt_natCast 1000
    rw [ofInt_natCast, thousand, origin,
      mul_ofRatio (by omega) (by omega) (by omega) (by omega),
      bne_self_eq_false, add_ofRatio (by omega) (by omega) (by omega)]
  have finite : (Double.ofInt count).isFinite = true := by
    rw [ofInt_natCast]
    exact isFinite_ofRatio (by omega) (by omega) false
  have notBefore : (ofRatio false (count * 1000 + 210866760000000)
      (2 ^ 0)).compareInt 0 ≠ .lt := by
    rw [compareInt_ofRatio (by omega) (by omega), Ne, compare_lt_iff_lt]
    omega
  have before : (ofRatio false (count * 1000 + 210866760000000)
      (2 ^ 0)).compareInt momentLimit = .lt := by
    rw [compareInt_ofRatio (by omega) (by omega), compare_lt_iff_lt,
      momentLimit]
    omega
  have rounded : ((ofRatio false (count * 1000 + 210866760000000)
      (2 ^ 0)).add (.ofRatio false 1 2)).toInteger =
        (count : Int) * 1000 + originDistance := by
    rw [add_half (by omega), toInteger_ofRatio (by omega) (by omega),
      originDistance]
    omega
  have below : (count : Int) * 1000 + originDistance < momentLimit := by
    unfold originDistance momentLimit
    omega
  generalize ofRatio false (count * 1000 + 210866760000000) (2 ^ 0) = sum
    at scaled notBefore before rounded
  unfold millisecondsOf?
  simp only [finite, scaled, before, rounded]
  simp [notBefore, below]

theorem writeMoment_literal {moment : Time.Moment} {character : Char}
    (plain : character ≠ '%') (rest : List Char) :
    writeMoment moment (character :: rest) =
      (writeMoment moment rest).map (character :: ·) := by
  simp [writeMoment, plain]

theorem writeMoment_specifier {moment : Time.Moment} {letter : Char}
    {part : List Char} (written : momentPart moment letter = some part)
    (rest : List Char) :
    writeMoment moment ('%' :: letter :: rest) =
      (writeMoment moment rest).map (part ++ ·) := by
  rw [writeMoment, written]
  cases writeMoment moment rest <;> rfl

/-- A database writes the moment that lies so many seconds after the beginning
of 1970. -/
theorem formatMoment_ofInt {seconds : Int} (after : 0 ≤ seconds)
    (within : seconds ≤ 253402300799) (format : List Char) :
    formatMoment .universal (.ofInt seconds) format =
      writeMoment (.ofSeconds seconds) format := by
  have ordinary : 0 ≤ seconds * 1000 + originDistance ∧
      seconds * 1000 + originDistance < momentLimit := by
    unfold originDistance momentLimit
    omega
  unfold formatMoment
  rw [millisecondsOf?_ofInt after within]
  simp [Time.LocalTime.universal, Time.Offset.universal, ordinary]

end DataGrid.Database
