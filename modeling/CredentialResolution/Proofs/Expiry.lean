/-
This file compares the two ways of asking whether credentials have expired: by the order of the
instants and by the time between them. They differ only around the end of a leap second.
-/

import CredentialResolution.Credentials
import Mathlib.Logic.ExistsUnique

namespace CredentialResolution

namespace Instant

variable {earlier later instant now : Instant}

theorem before_iff :
    earlier.before later = true ↔ earlier.day < later.day ∨
      earlier.day = later.day ∧ (earlier.second < later.second ∨
        earlier.second = later.second ∧ earlier.nanosecond < later.nanosecond) := by
  simp only [before, Bool.or_eq_true, Bool.and_eq_true, decide_eq_true_eq, beq_iff_eq]

theorem isLeap_eq_false_iff : instant.isLeap = false ↔ instant.nanosecond < 1000000000 := by
  rw [isLeap, decide_eq_false_iff_not, Nat.not_le]

/-- An instant in the leap second at the end of a day lingers while the first second of the next day
is less advanced than the leap second was. -/
structure Lingers (instant now : Instant) : Prop where
  lastSecond : instant.second = 86399
  nextDay : now.day = instant.day + 1
  firstSecond : now.second = 0
  lessAdvanced : now.nanosecond + 1000000000 < instant.nanosecond

/-- What lingers is over. -/
theorem Lingers.not_before (lingers : instant.Lingers now) : now.before instant = false := by
  have nextDay := lingers.nextDay
  rw [Bool.eq_false_iff, ne_eq, before_iff]
  omega

section Difference

/-- Seen from a clock, only leap seconds of earlier seconds of the day are counted. -/
theorem secondsBetween_of_reading (reading : now.isLeap = false) (instant : Instant) :
    now.secondsBetween instant = (instant.second : Int) - now.second -
      if instant.second < now.second ∧ instant.isLeap = true then 1 else 0 := by
  simp only [secondsBetween, reading, Bool.and_false, Bool.false_eq_true, if_false,
    Bool.and_eq_true, decide_eq_true_eq]
  split <;> omega

theorem nanosecondsBetween_of_reading (reading : now.isLeap = false) (instant : Instant) :
    now.nanosecondsBetween instant =
      ((instant.day - now.day) * 86400 + (instant.second - now.second -
          if instant.second < now.second ∧ instant.isLeap = true then 1 else 0)) * 1000000000 +
        (instant.nanosecond - now.nanosecond) := by
  rw [nanosecondsBetween, secondsBetween_of_reading reading]
  rfl

/-- Some time is left until what is still to come and until what lingers. -/
theorem nanosecondsBetween_pos_iff (reading : now.isLeap = false) (instant : Instant) :
    0 < now.nanosecondsBetween instant ↔ now.before instant = true ∨ instant.Lingers now := by
  have lingers_iff : instant.Lingers now ↔ instant.second = 86399 ∧ now.day = instant.day + 1 ∧
      now.second = 0 ∧ now.nanosecond + 1000000000 < instant.nanosecond :=
    ⟨fun ⟨last, next, first, less⟩ => ⟨last, next, first, less⟩,
      fun ⟨last, next, first, less⟩ => ⟨last, next, first, less⟩⟩
  have second := instant.secondBound
  have nowSecond := now.secondBound
  have nanosecond := instant.nanosecondBound
  have nowNanosecond := isLeap_eq_false_iff.mp reading
  rw [nanosecondsBetween_of_reading reading, before_iff, lingers_iff]
  cases leap : instant.isLeap with
  | false =>
    have whole := isLeap_eq_false_iff.mp leap
    simp only [Bool.false_eq_true, and_false, if_false]
    omega
  | true =>
    have beyond : 1000000000 ≤ instant.nanosecond := by simpa [isLeap] using leap
    simp only [and_true]
    split <;> omega

/-- What lingers seems to last for the rest of its advance. -/
theorem Lingers.nanosecondsBetween (lingers : instant.Lingers now) (reading : now.isLeap = false) :
    now.nanosecondsBetween instant = instant.nanosecond - 1000000000 - now.nanosecond := by
  obtain ⟨lastSecond, nextDay, firstSecond, lessAdvanced⟩ := lingers
  rw [nanosecondsBetween_of_reading reading, nextDay, lastSecond, firstSecond]
  omega

end Difference

end Instant

/-- Credentials never expire, have expired or last for some more time. -/
inductive Standing where
  | unlimited
  | expired
  | lasting

/-- Each standing has its own answers to both questions. -/
def Standing.Describes (credentials : Credentials) (now : Instant) : Standing → Prop
  | unlimited => credentials.expiration = none ∧ credentials.isExpired now = false ∧
    credentials.timeToExpiry now = none
  | expired => credentials.isExpired now = true ∧ credentials.timeToExpiry now = none
  | lasting => credentials.isExpired now = false ∧
    ∃ nanoseconds, credentials.timeToExpiry now = some nanoseconds ∧ 0 < nanoseconds

namespace Standing

variable {credentials : Credentials} {now : Instant} {standing other : Standing}

/-- No two standings have the same answers. -/
theorem Describes.unique (describes : standing.Describes credentials now)
    (others : other.Describes credentials now) : standing = other := by
  cases standing <;> cases other <;> simp only [Describes] at describes others <;> grind

end Standing

namespace Credentials

variable {credentials : Credentials} {now expiration : Instant}

theorem isExpired_of_expiration (now : Instant)
    (expires : credentials.expiration = some expiration) :
    credentials.isExpired now = !now.before expiration := by
  rw [isExpired, expires]

theorem timeToExpiry_of_expiration (now : Instant)
    (expires : credentials.expiration = some expiration) :
    credentials.timeToExpiry now =
      if 0 < now.nanosecondsBetween expiration then
        some (now.nanosecondsBetween expiration).toNat
      else none := by
  rw [timeToExpiry, expires]

/-- Some standing describes the credentials unless their expiration lingers. -/
theorem exists_standing (reading : now.isLeap = false)
    (gone : ∀ expiration, credentials.expiration = some expiration → ¬ expiration.Lingers now) :
    ∃ standing : Standing, standing.Describes credentials now := by
  cases expires : credentials.expiration with
  | none => exact ⟨.unlimited, expires, by rw [isExpired, expires], by rw [timeToExpiry, expires]⟩
  | some expiration =>
    have left := Instant.nanosecondsBetween_pos_iff reading expiration
    rw [or_iff_left (gone expiration expires)] at left
    have expired := isExpired_of_expiration now expires
    have remaining := timeToExpiry_of_expiration now expires
    cases before : now.before expiration with
    | false =>
      rw [before] at left expired
      rw [if_neg (by simp [left])] at remaining
      exact ⟨.expired, expired, remaining⟩
    | true =>
      have positive := left.mpr before
      rw [before] at expired
      rw [if_pos positive] at remaining
      exact ⟨.lasting, expired, _, remaining, by omega⟩

/-- Lingering credentials have expired and seem to last. -/
theorem answers_of_lingers (reading : now.isLeap = false)
    (expires : credentials.expiration = some expiration) (lingers : expiration.Lingers now) :
    credentials.isExpired now = true ∧
      credentials.timeToExpiry now =
        some (expiration.nanosecond - 1000000000 - now.nanosecond) := by
  constructor
  · rw [isExpired_of_expiration _ expires, lingers.not_before]
    rfl
  · have lessAdvanced := lingers.lessAdvanced
    rw [timeToExpiry_of_expiration _ expires, lingers.nanosecondsBetween reading, if_pos (by omega)]
    congr 1
    omega

/-- At every reading of a clock, exactly one standing describes the credentials, unless their
expiration lingers. In that case they have expired, and some time still seems to be left. -/
theorem standing_unless_lingering (credentials : Credentials) {now : Instant}
    (reading : now.isLeap = false) :
    ((∃! standing : Standing, standing.Describes credentials now) ↔
      ∀ expiration, credentials.expiration = some expiration → ¬ expiration.Lingers now) ∧
    ∀ expiration, credentials.expiration = some expiration → expiration.Lingers now →
      credentials.isExpired now = true ∧
        credentials.timeToExpiry now =
          some (expiration.nanosecond - 1000000000 - now.nanosecond) := by
  refine ⟨⟨?_, ?_⟩, fun expiration => answers_of_lingers reading⟩
  · rintro ⟨standing, describes, -⟩ expiration expires lingers
    obtain ⟨expired, remaining⟩ := answers_of_lingers reading expires lingers
    cases standing with
    | unlimited => exact nomatch expires.symm.trans describes.1
    | expired => exact nomatch remaining.symm.trans describes.2
    | lasting => exact nomatch expired.symm.trans describes.1
  · intro gone
    obtain ⟨standing, describes⟩ := exists_standing reading gone
    exact ⟨standing, describes, fun other others => others.unique describes⟩

/-- One second after midnight nothing lingers any more. -/
theorem standing_after_leap_second :
    let credentials := (basic "key" "secret").withExpiration (.ofUnix 1483228799 1500000000)
    let now := Instant.ofUnix 1483228801 0
    now.isLeap = false ∧ ∃! standing : Standing, standing.Describes credentials now := by
  intro credentials now
  refine ⟨rfl, (standing_unless_lingering credentials rfl).1.mpr ?_⟩
  rintro _ ⟨⟩ lingers
  exact nomatch lingers.firstSecond

/-- At midnight after the leap second at the end of 2016, credentials that expired within it have
half a second left. -/
theorem no_standing_in_leap_second :
    let credentials := (basic "key" "secret").withExpiration (.ofUnix 1483228799 1500000000)
    let now := Instant.ofUnix 1483228800 0
    now.isLeap = false ∧ credentials.isExpired now = true ∧
      credentials.timeToExpiry now = some 500000000 ∧
      ¬ ∃! standing : Standing, standing.Describes credentials now := by
  intro credentials now
  have expired : credentials.isExpired now = true := by decide
  have remaining : credentials.timeToExpiry now = some 500000000 := by decide
  refine ⟨rfl, expired, remaining, ?_⟩
  rintro ⟨standing, describes, -⟩
  cases standing with
  | unlimited => exact nomatch describes.1
  | expired => exact nomatch remaining.symm.trans describes.2
  | lasting => exact nomatch expired.symm.trans describes.1

end Credentials

end CredentialResolution
