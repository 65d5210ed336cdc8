import Mathlib.Data.List.Basic
import SettlementOps.Calendar

/-!
# Reading a time back

What reading a time does with a text that `toISOString` wrote.

* `parseISOString` — the instant an ISO text names, if it is the text of one.
* `ReadsISO` — a reader of times that knows the ISO texts.
* `readsISO_parseISOString` — an ISO text names its instant.
-/

namespace SettlementOps

open Calendar

/-- A reader of times gets an instant back from its ISO text. -/
def ReadsISO (parseDate : String → Option Date) : Prop :=
  ∀ d, parseDate (toISOString d) = some d

/-! ## The reader -/

/-- The number some digits write. -/
def decimal (cs : List Char) : Int := Nat.ofDigitChars 10 cs 0

/-- The year of an ISO text, with its sign. -/
def isoYearValue : List Char → Int
  | '-' :: cs => -decimal cs
  | '+' :: cs => decimal cs
  | cs => decimal cs

/-- The instant of a year and the twenty characters after it, `-MM-DDTHH:MM:SS.mmmZ`. -/
def isoInstant (year rest : List Char) : Date :=
  let field (start width : Nat) := decimal ((rest.drop start).take width)
  ⟨daysFromCivil (isoYearValue year) (field 1 2) (field 4 2) * msPerDay + field 7 2 * msPerHour +
    field 10 2 * msPerMinute + field 13 2 * msPerSecond + field 16 3⟩

def parseISOString (text : String) : Option Date :=
  let cs := text.toList
  let d := isoInstant (cs.take (cs.length - 20)) (cs.drop (cs.length - 20))
  if toISOString d = text then some d else none

/-! ## Numerals -/

theorem toList_pad (width : Nat) (n : Int) :
    (pad width n).toList = List.replicate (width - (Nat.toDigits 10 n.natAbs).length) '0' ++
      Nat.toDigits 10 n.natAbs := by
  have hrepr : (toString n.natAbs).toList = Nat.toDigits 10 n.natAbs := Nat.toList_repr
  rw [pad, String.toList_append, String.toList_ofList, hrepr, ← String.length_toList, hrepr]

theorem decimal_pad (width : Nat) (n : Int) : decimal (pad width n).toList = n.natAbs := by
  rw [decimal, toList_pad, Nat.ofDigitChars_append, Nat.ofDigitChars_replicate_zero, mul_zero,
    Nat.ofDigitChars_ten_toDigits]

theorem toString_injective : Function.Injective (toString : Nat → String) := by
  intro m n h
  have hvalue : ∀ k : Nat, decimal (toString k).toList = k := fun k => by
    have hrepr : (toString k).toList = Nat.toDigits 10 k := Nat.toList_repr
    rw [decimal, hrepr, Nat.ofDigitChars_ten_toDigits]
  exact Int.ofNat.inj ((hvalue m).symm.trans ((congrArg (decimal ·.toList) h).trans (hvalue n)))

theorem length_pad {width : Nat} {n : Int} (hw : 0 < width) (h : n.natAbs < 10 ^ width) :
    (pad width n).toList.length = width := by
  have hle := (Nat.length_toDigits_le_iff (b := 10) (by decide) hw).2 h
  rw [toList_pad, List.length_append, List.length_replicate]
  omega

theorem isDigit_pad {width : Nat} {n : Int} {c : Char} (hc : c ∈ (pad width n).toList) :
    c.isDigit = true := by
  rw [toList_pad, List.mem_append] at hc
  rcases hc with hc | hc
  · rw [(List.mem_replicate.1 hc).2]
    decide
  · exact Nat.isDigit_of_mem_toDigits (by decide) (by decide) hc

theorem isoYearValue_digits {cs : List Char} (h : ∀ c ∈ cs, c.isDigit = true) :
    isoYearValue cs = decimal cs := by
  unfold isoYearValue
  split
  · exact absurd (h _ List.mem_cons_self) (by decide)
  · exact absurd (h _ List.mem_cons_self) (by decide)
  · rfl

theorem isoYearValue_isoYear (year : Int) : isoYearValue (isoYear year).toList = year := by
  unfold isoYear
  split
  · rw [isoYearValue_digits fun c => isDigit_pad, decimal_pad]
    omega
  split
  · rw [String.toList_append]
    change -decimal (pad 6 year).toList = year
    rw [decimal_pad]
    omega
  · rw [String.toList_append]
    change decimal (pad 6 year).toList = year
    rw [decimal_pad]
    omega

/-! ## The fields -/

/-- Month and day of a calendar date have at most two digits. -/
theorem civilFromDays_bounds (days : Int) :
    1 ≤ (civilFromDays days).month ∧ (civilFromDays days).month ≤ 12 ∧
      1 ≤ (civilFromDays days).day ∧ (civilFromDays days).day ≤ 31 := by
  have h₀ : 0 ≤ (days + 719_468) % 146_097 := Int.emod_nonneg _ (by norm_num)
  have h₁ : (days + 719_468) % 146_097 < 146_097 := Int.emod_lt_of_pos _ (by norm_num)
  obtain ⟨hd₀, hd₁⟩ := dayOfYear_bounds h₀ h₁ rfl
  unfold civilFromDays
  dsimp only
  generalize (days + 719_468) % 146_097 - _ = doy at hd₀ hd₁ ⊢
  refine ⟨?_, ?_, ?_, ?_⟩
  · split <;> omega
  · split <;> omega
  · omega
  · omega

/-- The pieces of an ISO text, in order. -/
theorem toList_toISOString (t : Date) :
    (toISOString t).toList = (isoYear (civilFromDays (dayNumber t)).year).toList ++
      ('-' :: (pad 2 (civilFromDays (dayNumber t)).month).toList ++
        ('-' :: (pad 2 (civilFromDays (dayNumber t)).day).toList ++
          ('T' :: (pad 2 (msOfDay t / msPerHour)).toList ++
            (':' :: (pad 2 (msOfDay t / msPerMinute % 60)).toList ++
              (':' :: (pad 2 (msOfDay t / msPerSecond % 60)).toList ++
                ('.' :: (pad 3 (msOfDay t % msPerSecond)).toList ++ ['Z'])))))) := by
  have hdash : "-".toList = ['-'] := rfl
  have ht : "T".toList = ['T'] := rfl
  have hcolon : ":".toList = [':'] := rfl
  have hdot : ".".toList = ['.'] := rfl
  have hz : "Z".toList = ['Z'] := rfl
  simp only [toISOString, String.toList_append, List.append_assoc, hdash, ht, hcolon, hdot, hz,
    List.cons_append, List.nil_append]

section Fields

variable {month day hour minute second ms : List Char}
  (hmonth : month.length = 2) (hday : day.length = 2) (hhour : hour.length = 2)
  (hminute : minute.length = 2) (hsecond : second.length = 2) (hms : ms.length = 3)
include hmonth hday hhour hminute hsecond hms

theorem length_fields :
    ('-' :: month ++ ('-' :: day ++ ('T' :: hour ++ (':' :: minute ++
      (':' :: second ++ ('.' :: ms ++ ['Z'])))))).length = 20 := by
  simp only [List.length_append, List.length_cons, List.length_nil, hmonth, hday, hhour, hminute,
    hsecond, hms]

/-- Fields of a fixed width are read where they stand. -/
theorem isoInstant_fields (year : List Char) :
    isoInstant year ('-' :: month ++ ('-' :: day ++ ('T' :: hour ++ (':' :: minute ++
        (':' :: second ++ ('.' :: ms ++ ['Z'])))))) =
      ⟨daysFromCivil (isoYearValue year) (decimal month) (decimal day) * msPerDay +
        decimal hour * msPerHour + decimal minute * msPerMinute + decimal second * msPerSecond +
        decimal ms⟩ := by
  obtain ⟨_, _, rfl⟩ := List.length_eq_two.1 hmonth
  obtain ⟨_, _, rfl⟩ := List.length_eq_two.1 hday
  obtain ⟨_, _, rfl⟩ := List.length_eq_two.1 hhour
  obtain ⟨_, _, rfl⟩ := List.length_eq_two.1 hminute
  obtain ⟨_, _, rfl⟩ := List.length_eq_two.1 hsecond
  obtain ⟨_, _, _, rfl⟩ := List.length_eq_three.1 hms
  rfl

end Fields

/-- The fields of the time of day, within their two or three digits. -/
theorem timeOfDay_bounds (t : Date) :
    (0 ≤ msOfDay t / msPerHour ∧ msOfDay t / msPerHour < 100) ∧
      (0 ≤ msOfDay t / msPerMinute % 60 ∧ msOfDay t / msPerMinute % 60 < 100) ∧
      (0 ≤ msOfDay t / msPerSecond % 60 ∧ msOfDay t / msPerSecond % 60 < 100) ∧
      0 ≤ msOfDay t % msPerSecond ∧ msOfDay t % msPerSecond < 1_000 := by
  have h₀ : 0 ≤ msOfDay t := Int.emod_nonneg _ (by decide)
  have h₁ : msOfDay t < 86_400_000 := Int.emod_lt_of_pos _ (by decide)
  simp only [msPerHour, msPerMinute, msPerSecond]
  omega

/-- The fields of the time of day add up to it, and with its day to the instant. -/
theorem getTime_eq_fields (t : Date) :
    dayNumber t * msPerDay + msOfDay t / msPerHour * msPerHour +
        msOfDay t / msPerMinute % 60 * msPerMinute + msOfDay t / msPerSecond % 60 * msPerSecond +
        msOfDay t % msPerSecond = t.getTime := by
  have hsplit : msPerDay * dayNumber t + msOfDay t = t.getTime :=
    Int.mul_ediv_add_emod t.getTime msPerDay
  simp only [msPerHour, msPerMinute, msPerSecond]
  rw [← hsplit, mul_comm msPerDay]
  omega

/-- What comes after the year has twenty characters. -/
theorem take_drop_year {year tail : List Char} (h : tail.length = 20) :
    (year ++ tail).take ((year ++ tail).length - 20) = year ∧
      (year ++ tail).drop ((year ++ tail).length - 20) = tail := by
  rw [List.length_append, h, Nat.add_sub_cancel]
  exact ⟨List.take_left, List.drop_left⟩

/-- **An ISO text names its instant.** -/
theorem readsISO_parseISOString : ReadsISO parseISOString := by
  intro t
  obtain ⟨hm₁, hm₂, hd₁, hd₂⟩ := civilFromDays_bounds (dayNumber t)
  obtain ⟨⟨hh₀, hh₁⟩, ⟨hmin₀, hmin₁⟩, ⟨hs₀, hs₁⟩, hms₀, hms₁⟩ := timeOfDay_bounds t
  have two : ∀ n : Int, 0 ≤ n → n < 100 → (pad 2 n).toList.length = 2 :=
    fun n h₀ h₁ => length_pad (by decide) (by omega)
  have hmonth := two _ (le_trans zero_le_one hm₁) (by omega)
  have hday := two _ (le_trans zero_le_one hd₁) (by omega)
  have hhour := two _ hh₀ hh₁
  have hminute := two _ hmin₀ hmin₁
  have hsecond := two _ hs₀ hs₁
  have hms : (pad 3 (msOfDay t % msPerSecond)).toList.length = 3 :=
    length_pad (by decide) (by omega)
  have htail := length_fields hmonth hday hhour hminute hsecond hms
  have hread : isoInstant
      ((toISOString t).toList.take ((toISOString t).toList.length - 20))
      ((toISOString t).toList.drop ((toISOString t).toList.length - 20)) = t := by
    rw [toList_toISOString, (take_drop_year htail).1, (take_drop_year htail).2,
      isoInstant_fields hmonth hday hhour hminute hsecond hms, isoYearValue_isoYear]
    simp only [decimal_pad, Int.natCast_natAbs, abs_of_nonneg hh₀, abs_of_nonneg hmin₀,
      abs_of_nonneg hs₀, abs_of_nonneg hms₀, abs_of_nonneg (le_trans zero_le_one hm₁),
      abs_of_nonneg (le_trans zero_le_one hd₁), daysFromCivil_civilFromDays]
    rw [getTime_eq_fields]
  unfold parseISOString
  dsimp only
  rw [hread, if_pos rfl]

end SettlementOps
