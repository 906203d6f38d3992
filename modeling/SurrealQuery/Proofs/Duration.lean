import Mathlib.Data.List.Chain
import SurrealQuery.Duration
import SurrealQuery.Proofs.Json.Numeral

/-!
# What the literal of a duration says

A literal is a list of counts with units, from large to small. Its parts can be told from the text
(`literal_injective`), and they add up to the duration, up to parts of a microsecond. So two
durations have the same literal exactly if they agree in whole microseconds (`render_denotes`).
-/

namespace SurrealQuery

/-- The units of a literal. -/
inductive TimeUnit where
  | year
  | week
  | day
  | hour
  | minute
  | second
  | microsecond
deriving DecidableEq, Repr

namespace TimeUnit

/-- The units of one second and more, from large to small. -/
def whole : List TimeUnit :=
  [.year, .week, .day, .hour, .minute, .second]

/-- All units from large to small. -/
def all : List TimeUnit :=
  whole ++ [.microsecond]

def symbol : TimeUnit → String
  | .year => "y"
  | .week => "w"
  | .day => "d"
  | .hour => "h"
  | .minute => "m"
  | .second => "s"
  | .microsecond => "µs"

/-- The length of a unit in microseconds; a year has 365 days. -/
def micros : TimeUnit → Nat
  | .year => 365 * 86400 * 1000000
  | .week => 7 * 86400 * 1000000
  | .day => 86400 * 1000000
  | .hour => 3600 * 1000000
  | .minute => 60 * 1000000
  | .second => 1000000
  | .microsecond => 1

/-- The largest count of a unit, which is that of a time shorter than the next larger unit. There
may be any number of years. -/
def most? : TimeUnit → Option Nat
  | .year => none
  | .week => some 52
  | .day => some 6
  | .hour => some 23
  | .minute => some 59
  | .second => some 59
  | .microsecond => some 999999

theorem micros_pos (u : TimeUnit) : 0 < u.micros := by
  cases u <;> decide

/-- A symbol does not start with a digit. -/
theorem exists_symbol (u : TimeUnit) : ∃ c cs, u.symbol.toList = c :: cs ∧ c.isDigit = false := by
  cases u <;> exact ⟨_, _, rfl, by decide⟩

theorem eq_of_head?_symbol {u v : TimeUnit} :
    u.symbol.toList.head? = v.symbol.toList.head? → u = v := by
  cases u <;> cases v <;> decide

/-- The first character of a symbol tells the unit, whatever follows the symbol. -/
theorem symbol_append_inj {u v : TimeUnit} {cs ds : List Char}
    (h : u.symbol.toList ++ cs = v.symbol.toList ++ ds) : u = v ∧ cs = ds := by
  have hhead (u : TimeUnit) (cs : List Char) :
      (u.symbol.toList ++ cs).head? = u.symbol.toList.head? := by
    obtain ⟨c, cs', hsymbol, -⟩ := u.exists_symbol
    rw [hsymbol]
    rfl
  obtain rfl : u = v := by
    apply eq_of_head?_symbol
    rw [← hhead u cs, ← hhead v ds, h]
  exact ⟨rfl, List.append_cancel_left h⟩

end TimeUnit

/-! ## Literals -/

/-- A number of units. -/
structure Span where
  count : Nat
  unit : TimeUnit
deriving DecidableEq, Repr

namespace Span

def text (s : Span) : String :=
  Text.decimal s.count ++ s.unit.symbol

def micros (s : Span) : Nat :=
  s.count * s.unit.micros

/-- Spans one after the other. -/
def literal : List Span → String
  | [] => ""
  | s :: rest => s.text ++ literal rest

/-- The sum of spans in microseconds. -/
def total : List Span → Nat
  | [] => 0
  | s :: rest => s.micros + total rest

/-- Spans as they stand in a literal: at least one, none of zero, from large to small units, and of
no unit more than there may be. -/
structure IsNormal (spans : List Span) : Prop where
  nonempty : spans ≠ []
  count_pos : ∀ s ∈ spans, 0 < s.count
  count_le : ∀ s ∈ spans, ∀ most ∈ s.unit.most?, s.count ≤ most
  decreasing : spans.Pairwise fun s t => t.unit.micros < s.unit.micros

theorem literal_append (spans others : List Span) :
    literal (spans ++ others) = literal spans ++ literal others := by
  induction spans with
  | nil => simp [literal]
  | cons s rest ih => simp [literal, ih, String.append_assoc]

theorem toList_text (s : Span) :
    s.text.toList = Nat.toDigits 10 s.count ++ s.unit.symbol.toList := by
  simp [text, Text.decimal]

/-- The digits of a count end where the unit begins. -/
theorem digits_text (s : Span) (rest : List Char) :
    Json.Numeral.digits (s.text.toList ++ rest) =
      (Nat.toDigits 10 s.count, s.unit.symbol.toList ++ rest) := by
  rw [toList_text, List.append_assoc]
  apply Json.Numeral.digits_append
  · intro c hc
    exact Json.Numeral.isDigit_of_mem_toDigits hc
  · intro c hc
    obtain ⟨d, ds, hsymbol, hd⟩ := s.unit.exists_symbol
    rw [hsymbol] at hc
    obtain rfl : d = c := by simpa using hc
    exact hd

theorem text_append_inj {s t : Span} {cs ds : List Char}
    (h : s.text.toList ++ cs = t.text.toList ++ ds) : s = t ∧ cs = ds := by
  have hdigits := congrArg Json.Numeral.digits h
  rw [digits_text, digits_text] at hdigits
  obtain ⟨hcount, hsymbol⟩ := Prod.mk.inj hdigits
  obtain ⟨hunit, hrest⟩ := TimeUnit.symbol_append_inj hsymbol
  have hvalue : s.count = t.count :=
    calc
      s.count = Nat.ofDigitChars 10 (Nat.toDigits 10 s.count) 0 :=
        Nat.ofDigitChars_ten_toDigits.symm
      _ = Nat.ofDigitChars 10 (Nat.toDigits 10 t.count) 0 := by rw [hcount]
      _ = t.count := Nat.ofDigitChars_ten_toDigits
  obtain ⟨count, unit⟩ := s
  obtain ⟨count', unit'⟩ := t
  cases hvalue
  cases hunit
  exact ⟨rfl, hrest⟩

theorem text_ne_nil (s : Span) : s.text.toList ≠ [] := by
  rw [toList_text]
  simp [Nat.toDigits_ne_nil]

theorem literal_eq_empty {spans : List Span} : literal spans = "" ↔ spans = [] := by
  cases spans with
  | nil => simp [literal]
  | cons s rest =>
    have hne : s.text ≠ "" := fun h => s.text_ne_nil (congrArg String.toList h)
    simp [literal, hne]

/-- A literal can be read in one way only, whatever its counts and units. -/
theorem literal_injective : Function.Injective literal := by
  intro spans
  induction spans with
  | nil =>
    intro others h
    exact (literal_eq_empty.1 h.symm).symm
  | cons s rest ih =>
    intro others h
    cases others with
    | nil => exact literal_eq_empty.1 h
    | cons t others =>
      have hchars := congrArg String.toList h
      rw [literal, literal, String.toList_append, String.toList_append] at hchars
      obtain ⟨rfl, hrest⟩ := text_append_inj hchars
      rw [ih (String.toList_inj.1 hrest)]

/-! ## Splitting a time over units -/

/-- Splits a number of microseconds over units, as many as fit of each before the next. A unit that
does not fit is left out. -/
def split : List TimeUnit → Nat → List Span
  | [], _ => []
  | u :: rest, n =>
    if n / u.micros = 0 then split rest (n % u.micros)
    else ⟨n / u.micros, u⟩ :: split rest (n % u.micros)

/-- What is left of a number of microseconds after splitting it over units. -/
def remainder (units : List TimeUnit) (n : Nat) : Nat :=
  units.foldl (fun n u => n % u.micros) n

theorem split_append (units others : List TimeUnit) (n : Nat) :
    split (units ++ others) n = split units n ++ split others (remainder units n) := by
  induction units generalizing n with
  | nil => rfl
  | cons u rest ih =>
    rw [List.cons_append, split, split, ih]
    split <;> rfl

/-- The spans and what is left make up the whole. -/
theorem total_split (units : List TimeUnit) (n : Nat) :
    total (split units n) + remainder units n = n := by
  induction units generalizing n with
  | nil => exact Nat.zero_add n
  | cons u rest ih =>
    have hrest : total (split rest (n % u.micros)) + remainder (u :: rest) n = n % u.micros :=
      ih (n % u.micros)
    have hsplit := Nat.div_add_mod n u.micros
    rw [split]
    by_cases hzero : n / u.micros = 0
    · rw [if_pos hzero, hrest]
      rw [hzero, Nat.mul_zero, Nat.zero_add] at hsplit
      exact hsplit
    · have hcons : total (⟨n / u.micros, u⟩ :: split rest (n % u.micros)) =
          u.micros * (n / u.micros) + total (split rest (n % u.micros)) := by
        rw [Nat.mul_comm]
        rfl
      rw [if_neg hzero, hcons]
      omega

theorem units_split (units : List TimeUnit) (n : Nat) :
    ((split units n).map unit).Sublist units := by
  induction units generalizing n with
  | nil => exact List.Sublist.refl []
  | cons u rest ih =>
    rw [split]
    split
    · exact (ih _).cons u
    · exact (ih _).cons_cons u

theorem count_pos_of_mem_split {units : List TimeUnit} {n : Nat} {s : Span}
    (h : s ∈ split units n) : 0 < s.count := by
  induction units generalizing n with
  | nil => cases h
  | cons u rest ih =>
    rw [split] at h
    split at h
    · exact ih h
    · rename_i hcount
      rcases List.mem_cons.1 h with rfl | h
      · exact Nat.pos_of_ne_zero hcount
      · exact ih h

/-- No unit is counted more often than it may be, if that is so for the first one and each unit has
room for the largest count of the next. -/
theorem count_le_of_mem_split {units : List TimeUnit} {n : Nat}
    (hfirst : ∀ u ∈ units.head?, ∀ most ∈ u.most?, n < (most + 1) * u.micros)
    (hnext : units.IsChain fun u v => ∀ most ∈ v.most?, u.micros ≤ (most + 1) * v.micros)
    {s : Span} (h : s ∈ split units n) : ∀ most ∈ s.unit.most?, s.count ≤ most := by
  induction units generalizing n with
  | nil => cases h
  | cons u rest ih =>
    have hlater : ∀ v ∈ rest.head?, ∀ most ∈ v.most?, n % u.micros < (most + 1) * v.micros := by
      intro v hv most hmost
      have hroom := hnext.rel_head? hv most hmost
      exact Nat.lt_of_lt_of_le (Nat.mod_lt n u.micros_pos) hroom
    rw [split] at h
    split at h
    · exact ih hlater hnext.tail h
    · rcases List.mem_cons.1 h with rfl | h
      · intro most hmost
        have hcount := (Nat.div_lt_iff_lt_mul u.micros_pos).2 (hfirst u rfl most hmost)
        exact Nat.le_of_lt_succ hcount
      · exact ih hlater hnext.tail h

/-- What is left changes by multiples of the units. -/
theorem remainder_mod {units : List TimeUnit} {k : Nat} (h : ∀ u ∈ units, k ∣ u.micros) (n : Nat) :
    remainder units n % k = n % k := by
  induction units generalizing n with
  | nil => rfl
  | cons u rest ih =>
    rw [List.forall_mem_cons] at h
    calc
      remainder (u :: rest) n % k = n % u.micros % k := ih h.2 (n % u.micros)
      _ = n % k := Nat.mod_mod_of_dvd n h.1

theorem remainder_whole (n : Nat) : remainder TimeUnit.whole n = n % 1000000 := by
  have hlarge : ∀ u ∈ [TimeUnit.year, .week, .day, .hour, .minute], 1000000 ∣ u.micros := by decide
  exact remainder_mod hlarge n

theorem remainder_all (n : Nat) : remainder TimeUnit.all n = 0 :=
  Nat.mod_one _

theorem total_split_all (n : Nat) : total (split TimeUnit.all n) = n := by
  have h := total_split TimeUnit.all n
  rwa [remainder_all, Nat.add_zero] at h

theorem split_all_eq_nil {n : Nat} : split TimeUnit.all n = [] ↔ n = 0 := by
  constructor
  · intro h
    have htotal := total_split_all n
    rw [h] at htotal
    exact htotal.symm
  · rintro rfl
    rfl

theorem isNormal_split_all {n : Nat} (h : n ≠ 0) : IsNormal (split TimeUnit.all n) where
  nonempty := mt split_all_eq_nil.1 h
  count_pos _ hs := count_pos_of_mem_split hs
  count_le _ hs := by
    refine count_le_of_mem_split ?_ ?_ hs
    · rintro u ⟨⟩ most ⟨⟩
    · decide
  decreasing := by
    have hall : TimeUnit.all.Pairwise fun u v => v.micros < u.micros := by decide
    exact List.pairwise_map.1 (hall.sublist (units_split TimeUnit.all n))

end Span

/-! ## Durations -/

namespace Duration

open SurrealQuery.Span (literal split remainder total IsNormal)

/-- The duration in nanoseconds. -/
def inNanos (d : Duration) : Nat :=
  d.seconds.toNat * 1000000000 + d.nanos

/-- The duration in whole microseconds. -/
def inMicros (d : Duration) : Nat :=
  d.inNanos / 1000

theorem inMicros_eq (d : Duration) :
    d.inMicros = d.seconds.toNat * 1000000 + d.nanos / 1000 := by
  unfold inMicros inNanos
  omega

theorem term_eq_literal (count : Nat) (u : TimeUnit) :
    term count u.symbol = literal (if count = 0 then [] else [⟨count, u⟩]) := by
  unfold term
  split
  · rfl
  · rw [literal, literal, String.append_empty]
    rfl

/-- Units of whole seconds take the same share of the seconds as of the microseconds. -/
theorem terms_eq_literal {units : List TimeUnit} (hwhole : ∀ u ∈ units, 1000000 ∣ u.micros)
    (seconds : Nat) {part : Nat} (hpart : part < 1000000) :
    terms (units.map fun u => (u.micros / 1000000, u.symbol)) seconds =
      literal (split units (seconds * 1000000 + part)) := by
  induction units generalizing seconds with
  | nil => rfl
  | cons u rest ih =>
    rw [List.forall_mem_cons] at hwhole
    obtain ⟨size, hsize⟩ := hwhole.1
    -- The part below a second is carried along, since no unit here cuts into a second.
    have hseconds : (seconds * 1000000 + part) / 1000000 = seconds := by omega
    have hcount : (seconds * 1000000 + part) / u.micros = seconds / size := by
      rw [hsize, ← Nat.div_div_eq_div_mul, hseconds]
    have hrest : (seconds * 1000000 + part) % u.micros = seconds % size * 1000000 + part := by
      rw [hsize, Nat.mod_mul, hseconds]
      omega
    have hsame : u.micros / 1000000 = size := by omega
    rw [List.map_cons, terms, hsame, ih hwhole.2, term_eq_literal, ← Span.literal_append, split,
      hcount, hrest]
    split <;> rfl

/-- The text of a duration, but for a duration of no microsecond. -/
theorem terms_append_term (d : Duration) :
    terms scale d.seconds.toNat ++ term (d.nanos / 1000) "µs" =
      literal (split TimeUnit.all d.inMicros) := by
  have hpart : d.nanos / 1000 < 1000000 := by
    have := d.nanos_lt
    omega
  have hwhole : ∀ u ∈ TimeUnit.whole, 1000000 ∣ u.micros := by decide
  have hscale : scale = TimeUnit.whole.map fun u => (u.micros / 1000000, u.symbol) := by decide
  have hlast : term (d.nanos / 1000) "µs" = literal (split [.microsecond] (d.nanos / 1000)) := by
    have hcount : d.nanos / 1000 / TimeUnit.microsecond.micros = d.nanos / 1000 := Nat.div_one _
    rw [split, split, hcount]
    exact term_eq_literal (d.nanos / 1000) .microsecond
  have hrest : remainder TimeUnit.whole (d.seconds.toNat * 1000000 + d.nanos / 1000) =
      d.nanos / 1000 := by
    rw [Span.remainder_whole]
    omega
  rw [hscale, terms_eq_literal hwhole _ hpart, hlast, ← Span.literal_append, inMicros_eq,
    TimeUnit.all, Span.split_append, hrest]

theorem render_eq (d : Duration) :
    d.render = if d.inMicros = 0 then "0s" else literal (split TimeUnit.all d.inMicros) := by
  unfold render
  dsimp only
  rw [terms_append_term]
  by_cases hzero : d.inMicros = 0
  · rw [if_pos hzero, hzero]
    rfl
  · have hne : literal (split TimeUnit.all d.inMicros) ≠ "" :=
      mt Span.literal_eq_empty.1 (mt Span.split_all_eq_nil.1 hzero)
    rw [if_neg hzero, if_neg (by simpa using hne)]

/-- The literal of a duration can be read as spans that add up to it. -/
theorem exists_spans (d : Duration) :
    ∃ spans, d.render = literal spans ∧ total spans = d.inMicros := by
  rw [render_eq]
  split
  · rename_i hzero
    exact ⟨[⟨0, .second⟩], by decide, hzero.symm⟩
  · exact ⟨_, rfl, Span.total_split_all _⟩

/-- However the literal of a duration is read, its spans add up to the duration. -/
theorem total_of_render {d : Duration} {spans : List Span} (h : d.render = literal spans) :
    total spans = d.inMicros := by
  obtain ⟨others, hothers, htotal⟩ := d.exists_spans
  rw [h] at hothers
  rw [Span.literal_injective hothers, htotal]

/-- **The literal of a duration denotes it.** It is `0s` exactly for durations shorter than a
microsecond. Any other duration has a literal of one or more counts with units, from large to small,
none of them zero and none more than fit the next larger unit, which add up to the duration in whole
microseconds; and that is so however the text is read. So durations have the same literal exactly if
they agree in whole microseconds. -/
theorem render_denotes (d : Duration) :
    (d.render = "0s" ↔ d.inNanos < 1000) ∧
      (1000 ≤ d.inNanos → ∃ spans, IsNormal spans ∧ d.render = literal spans ∧
        total spans = d.inNanos / 1000) ∧
      (∀ spans, d.render = literal spans → total spans = d.inNanos / 1000) ∧
      ∀ d' : Duration, d.render = d'.render ↔ d.inNanos / 1000 = d'.inNanos / 1000 := by
  refine ⟨?_, ?_, fun spans => total_of_render, fun d' => ?_⟩
  · constructor
    · intro h
      have hzero : total [⟨0, .second⟩] = d.inNanos / 1000 := total_of_render (h.trans (by decide))
      have hnone : total [⟨0, .second⟩] = 0 := rfl
      omega
    · intro h
      have hzero : d.inMicros = 0 := Nat.div_eq_of_lt h
      rw [render_eq, if_pos hzero]
  · intro h
    have hne : d.inMicros ≠ 0 := by
      unfold inMicros
      omega
    refine ⟨_, Span.isNormal_split_all hne, ?_, Span.total_split_all _⟩
    rw [render_eq, if_neg hne]
  · constructor
    · intro h
      obtain ⟨spans, hspans, htotal⟩ := d.exists_spans
      exact htotal.symm.trans (total_of_render (h.symm.trans hspans))
    · intro h
      have hmicros : d.inMicros = d'.inMicros := h
      rw [render_eq, render_eq, hmicros]

theorem render_denotes_years :
    let d : Duration := { seconds := 94604459, nanos := 1500 }
    d.render = "2y52w23h59s1µs" ∧ 1000 ≤ d.inNanos ∧ d.render ≠ "0s" ∧
      (∃ spans, IsNormal spans ∧ d.render = literal spans ∧ total spans = 94604459000001) ∧
      total [⟨2, .year⟩, ⟨52, .week⟩, ⟨23, .hour⟩, ⟨59, .second⟩, ⟨1, .microsecond⟩] =
        94604459000001 ∧
      Duration.render { seconds := 94604459, nanos := 1999 } = d.render ∧
      Duration.render { seconds := 94604459, nanos := 2000 } ≠ d.render ∧
      Duration.render { seconds := 0, nanos := 999 } = "0s" := by
  intro d
  have htext : d.render = "2y52w23h59s1µs" := by decide
  have hmicros : d.inNanos / 1000 = 94604459000001 := by decide
  obtain ⟨hzero, hspans, htotal, hsame⟩ := render_denotes d
  rw [hmicros] at hspans htotal
  have hlong : 1000 ≤ d.inNanos := by decide
  have hread : d.render =
      literal [⟨2, .year⟩, ⟨52, .week⟩, ⟨23, .hour⟩, ⟨59, .second⟩, ⟨1, .microsecond⟩] :=
    htext.trans (by decide)
  refine ⟨htext, hlong, fun h => ?_, hspans hlong, htotal _ hread, ?_, fun h => ?_, ?_⟩
  · exact absurd (hzero.1 h) (by decide)
  · exact ((hsame _).2 (by decide)).symm
  · exact absurd ((hsame _).1 h.symm) (by decide)
  · exact (render_denotes _).1.2 (by decide)

end Duration

end SurrealQuery
