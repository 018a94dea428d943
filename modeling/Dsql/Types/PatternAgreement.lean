import Dsql.Types.PortablePatterns

/-!
# Both engines read portable patterns alike

What the scan lets through is cut into the same tokens by both dialects, as
long as no class is empty: a closing bracket right behind an opening one is a
member of the class for the one and its end for the other.
-/

namespace Dsql

namespace Types

open Regex

/-- The Rust syntax rejects a text, or both dialects read the same of it and
leave the scan something shorter to go on with. -/
def Agrees
    {α : Type}
    (start : List Char)
    (inClass : Bool)
    (rust ecma : Except Refusal (α × List Char)) : Prop :=
  rust = .error .malformed ∨
    ∃ value rest, rust = .ok (value, rest) ∧ ecma = .ok (value, rest) ∧
      Scans inClass rest ∧ rest.length < start.length

section Escapes

theorem consumeHex_ok
    {expected : String}
    (count : Nat)
    {chars rest : List Char}
    (h : consumeHex expected count chars = .ok rest) :
    count ≤ chars.length ∧ rest = chars.drop count ∧
      (chars.take count).all (fun char => (hexDigit char).isSome) = true := by
  induction count generalizing chars with
  | zero =>
      cases h
      exact ⟨Nat.zero_le _, rfl, rfl⟩
  | succ count ih =>
      cases chars with
      | nil => cases h
      | cons char chars =>
          rw [consumeHex] at h
          split at h
          · next hdigit =>
              obtain ⟨hlength, hrest, hall⟩ := ih h
              refine ⟨Nat.succ_le_succ hlength, hrest, ?_⟩
              rw [List.take_succ_cons, List.all_cons, hdigit, hall]
              rfl
          · cases h

/-- The digits that the scan consumes name a character or nothing. -/
theorem hexEscape_of_consumeHex
    {expected : String}
    {count : Nat}
    {chars rest : List Char}
    (hcount : 0 < count)
    (h : consumeHex expected count chars = .ok rest) :
    (∃ char, ∀ other, hexEscape other count chars = .ok (char, rest)) ∨
      hexEscape .malformed count chars = .error .malformed := by
  obtain ⟨hlength, rfl, hall⟩ := consumeHex_ok count h
  have hbrace : chars.head? ≠ some '\x7b' := by
    intro hhead
    cases chars with
    | nil => cases hhead
    | cons char chars =>
        cases hhead
        obtain ⟨count, rfl⟩ := Nat.exists_eq_succ_of_ne_zero hcount.ne'
        rw [List.take_succ_cons, List.all_cons, Bool.and_eq_true] at hall
        exact absurd hall.1 (by decide)
  have hdigits : (count ≤ chars.length &&
      (chars.take count).all (fun char => (hexDigit char).isSome)) = true := by
    rw [hall, Bool.and_true, decide_eq_true hlength]
  by_cases hvalid : (hexValue (chars.take count)).isValidChar
  · left
    refine ⟨Char.ofNat (hexValue (chars.take count)), fun other => ?_⟩
    unfold hexEscape
    rw [if_neg hbrace, if_pos hdigits, if_pos hvalid]
  · right
    unfold hexEscape
    rw [if_neg hbrace, if_pos hdigits, if_neg hvalid]

/-- The characters that stand for themselves behind a backslash. -/
theorem escaped_self
    {char : Char}
    (h : "^$\\.*+?()[]\x7b\x7d|/-".toList.contains char = true) :
    Rust.isEscapable char = true ∧
      (Ecma.isSyntaxCharacter char = true ∨ char = '/' ∨ char = '-') := by
  have hchars : "^$\\.*+?()[]\x7b\x7d|/-".toList =
      ['^', '$', '\\', '.', '*', '+', '?', '(', ')', '[', ']', '\x7b',
        '\x7d', '|', '/', '-'] := by
    decide
  have hmember := List.contains_iff_mem.mp h
  rw [hchars] at hmember
  simp only [List.mem_cons, List.not_mem_nil, or_false] at hmember
  rcases hmember with rfl | rfl | rfl | rfl | rfl | rfl | rfl | rfl | rfl |
    rfl | rfl | rfl | rfl | rfl | rfl | rfl <;> decide

theorem escape_agrees
    {inClass : Bool}
    {chars rest : List Char}
    (h : scanEscape inClass chars = .ok rest) :
    rest.length < chars.length ∧
      (Rust.escape chars = .error .malformed ∨
        ∃ char, Rust.escape chars = .ok (char, rest) ∧
          Ecma.escape inClass chars = .ok (char, rest)) := by
  cases chars with
  | nil => cases h
  | cons char chars =>
      have hhex : ∀ expected count, 0 < count →
          consumeHex expected count chars = .ok rest →
          rest.length < (char :: chars).length := by
        intro expected count hcount hconsume
        obtain ⟨hlength, rfl, -⟩ := consumeHex_ok count hconsume
        rw [List.length_drop, List.length_cons]
        omega
      unfold scanEscape at h
      simp only at h
      unfold Rust.escape Ecma.escape
      simp only
      split at h
      · cases h
      · split at h
        · next hx =>
            refine ⟨hhex _ 2 (by decide) h, ?_⟩
            subst hx
            rcases hexEscape_of_consumeHex (by decide) h with
              ⟨found, hfound⟩ | hmalformed
            · exact .inr ⟨found, hfound _, hfound _⟩
            · exact .inl hmalformed
        · next hx =>
            split at h
            · next hu =>
                refine ⟨hhex _ 4 (by decide) h, ?_⟩
                subst hu
                rcases hexEscape_of_consumeHex (by decide) h with
                  ⟨found, hfound⟩ | hmalformed
                · exact .inr ⟨found, hfound _, hfound _⟩
                · exact .inl hmalformed
            · next hu =>
                split at h
                · next hcontrol =>
                    cases h
                    refine ⟨Nat.lt_succ_self _, .inr ?_⟩
                    simp only [Bool.or_eq_true, decide_eq_true_eq] at hcontrol
                    rcases hcontrol with (rfl | rfl) | rfl
                    · exact ⟨_, rfl, rfl⟩
                    · exact ⟨_, rfl, rfl⟩
                    · exact ⟨_, rfl, rfl⟩
                · next hcontrol =>
                    split at h
                    · cases h
                    · next hdash =>
                        split at h
                        · next hself =>
                            cases h
                            obtain ⟨hrust, hecma⟩ := escaped_self hself
                            simp only [Bool.or_eq_true, decide_eq_true_eq,
                              not_or] at hcontrol
                            obtain ⟨⟨hn, hr⟩, ht⟩ := hcontrol
                            refine ⟨Nat.lt_succ_self _, .inr ⟨char, ?_, ?_⟩⟩
                            · rw [if_neg hn, if_neg hr, if_neg ht, if_neg hx,
                                if_neg hu, if_pos hrust]
                            · rw [if_neg hn, if_neg hr, if_neg ht, if_neg hx,
                                if_neg hu, if_pos]
                              cases inClass with
                              | true => simpa [or_assoc] using hecma
                              | false =>
                                  have hnot : char ≠ '-' := by
                                    simpa using hdash
                                  simpa [hnot] using hecma
                        · cases h

end Escapes

section Classes

/-- The rest of a text in a class after a character that does not end it. -/
theorem scans_inside
    {char : Char}
    {rest : List Char}
    (h : Scans true (char :: rest))
    (hescape : char ≠ '\\')
    (hclose : char ≠ ']') :
    char ≠ '[' ∧ Scans true rest ∧
      ((char = '&' ∨ char = '-' ∨ char = '~') →
        rest.head? ≠ some char) := by
  cases h with
  | @cons _ next _ _ later hnonempty hstep htail =>
      unfold scanStep at hstep
      rw [if_neg hescape, if_pos rfl, if_neg hclose] at hstep
      split at hstep
      · cases hstep
      · next hopen =>
          split at hstep
          · cases hstep
          · next hdouble =>
              cases hstep
              refine ⟨hopen, htail, ?_⟩
              simpa [or_assoc] using hdouble

theorem scans_escape
    {inClass : Bool}
    {rest : List Char}
    (h : Scans inClass ('\\' :: rest)) :
    ∃ later, scanEscape inClass rest = .ok later ∧ Scans inClass later := by
  cases h with
  | @cons _ next _ _ later hnonempty hstep htail =>
      unfold scanStep at hstep
      rw [if_pos rfl] at hstep
      obtain ⟨found, hfound, hresult⟩ := except_bind_ok hstep
      obtain ⟨rfl, rfl⟩ := Prod.mk.inj (Except.ok.inj hresult)
      exact ⟨_, hfound, htail⟩

/-- A member of a class reads the same in both dialects. -/
theorem member_agrees
    {chars : List Char}
    (h : Scans true chars)
    (hclose : chars.head? ≠ some ']') :
    Agrees chars true (Rust.member chars) (Ecma.classAtom chars) := by
  cases chars with
  | nil => exact .inl rfl
  | cons char rest =>
      unfold Rust.member Ecma.classAtom
      simp only
      by_cases hescape : char = '\\'
      · subst hescape
        rw [if_pos rfl, if_pos rfl]
        obtain ⟨later, hlater, htail⟩ := scans_escape h
        obtain ⟨hlength, hread⟩ := escape_agrees hlater
        rcases hread with hmalformed | ⟨found, hrust, hecma⟩
        · exact .inl hmalformed
        · exact .inr ⟨found, later, hrust, hecma, htail,
            Nat.lt_succ_of_lt hlength⟩
      · rw [if_neg hescape, if_neg hescape]
        have hnot : char ≠ ']' := fun hchar => hclose (by rw [hchar]; rfl)
        obtain ⟨-, htail, -⟩ := scans_inside h hescape hnot
        exact .inr ⟨char, rest, rfl, rfl, htail, Nat.lt_succ_self _⟩

/-- Behind a member both dialects see the same ranges. -/
theorem opensRange_eq
    {chars : List Char}
    (h : Scans true chars) :
    Ecma.opensRange chars = Rust.opensRange chars := by
  unfold Ecma.opensRange Rust.opensRange
  cases chars with
  | nil => rfl
  | cons char rest =>
      by_cases hdash : char = '-'
      · subst hdash
        obtain ⟨-, -, hdouble⟩ := scans_inside h (by decide) (by decide)
        have hnext : rest.head? ≠ some '-' := hdouble (.inr (.inl rfl))
        simp [hnext]
      · simp [hdash]

theorem range_agrees
    {chars : List Char}
    (h : Scans true chars)
    (hclose : chars.head? ≠ some ']') :
    Agrees chars true (Rust.range chars) (Ecma.range chars) := by
  unfold Rust.range Ecma.range
  rcases member_agrees h hclose with hmalformed |
    ⟨first, rest, hrust, hecma, htail, hlength⟩
  · rw [hmalformed]
    exact .inl rfl
  · rw [hrust, hecma]
    show Agrees chars true (if Rust.opensRange rest = true then _ else _)
      (if Ecma.opensRange rest = true then _ else _)
    rw [opensRange_eq htail]
    by_cases hrange : Rust.opensRange rest = true
    · rw [if_pos hrange, if_pos hrange]
      unfold Rust.opensRange at hrange
      simp only [Bool.and_eq_true, decide_eq_true_eq] at hrange
      obtain ⟨⟨hdash, hnext⟩, -⟩ := hrange
      cases rest with
      | nil => cases hdash
      | cons char rest =>
          cases hdash
          obtain ⟨-, hafter, -⟩ := scans_inside htail (by decide) (by decide)
          rcases member_agrees hafter hnext with hmalformed |
            ⟨last, later, hlast, hother, hlater, hshorter⟩
          · rw [List.tail_cons, hmalformed]
            exact .inl rfl
          · rw [List.tail_cons, hlast, hother]
            by_cases hordered : first ≤ last
            · refine .inr ⟨(first, last), later, ?_, ?_, hlater, ?_⟩
              · exact if_pos hordered
              · exact if_pos hordered
              · rw [List.length_cons] at hlength
                omega
            · exact .inl (if_neg hordered)
    · rw [if_neg hrange, if_neg hrange]
      exact .inr ⟨(first, first), rest, rfl, rfl, htail, hlength⟩

/-- The members of a class, by induction on the fuel; each round takes one
range from both texts. -/
theorem ranges_agrees
    (fuel : Nat)
    {chars : List Char}
    (hfuel : chars.length ≤ fuel)
    (h : Scans true chars) :
    Agrees chars false (Rust.ranges fuel chars) (Ecma.ranges fuel chars) := by
  induction fuel generalizing chars with
  | zero =>
      rw [List.length_eq_zero_iff.mp (Nat.le_zero.mp hfuel)]
      exact .inl rfl
  | succ fuel ih =>
      cases chars with
      | nil => exact .inl rfl
      | cons char rest =>
          unfold Rust.ranges Ecma.ranges
          by_cases hclose : char = ']'
          · subst hclose
            rw [if_pos rfl, if_pos rfl]
            refine .inr ⟨[], rest, rfl, rfl, ?_, Nat.lt_succ_self _⟩
            cases h with
            | cons hnonempty hstep htail =>
                cases hstep
                exact htail
          · rw [if_neg hclose, if_neg hclose]
            have hplain : (char = '[' ||
                Rust.opensOperation (char :: rest)) = false := by
              by_cases hescape : char = '\\'
              · subst hescape
                simp [Rust.opensOperation]
              · obtain ⟨hopen, -, hdouble⟩ := scans_inside h hescape hclose
                unfold Rust.opensOperation
                simp only [hopen, decide_false, Bool.false_or,
                  Bool.and_eq_false_iff, decide_eq_false_iff_not,
                  List.head?_cons, List.tail_cons, Bool.or_eq_false_iff,
                  Option.some.injEq]
                by_cases hoperator : char = '&' ∨ char = '-' ∨ char = '~'
                · exact .inl (decide_eq_false (fun hsame =>
                    hdouble hoperator hsame.symm))
                · simp only [not_or] at hoperator
                  exact .inr ⟨⟨hoperator.1, hoperator.2.1⟩, hoperator.2.2⟩
            rw [if_neg (by rw [hplain]; exact Bool.false_ne_true)]
            have hhead : (char :: rest).head? ≠ some ']' :=
              fun hsame => hclose (Option.some.inj hsame)
            rcases range_agrees h hhead with hmalformed |
              ⟨first, later, hrust, hecma, hlater, hshorter⟩
            · rw [hmalformed]
              exact .inl rfl
            · rw [hrust, hecma]
              have hleft : later.length ≤ fuel := by
                rw [List.length_cons] at hfuel hshorter
                omega
              rcases ih hleft hlater with hmalformed |
                ⟨others, final, hothers, hecmas, hfinal, hless⟩
              · refine .inl ?_
                show (Rust.ranges fuel later >>= fun found =>
                  Except.ok (first :: found.1, found.2)) = _
                rw [hmalformed]
                rfl
              · refine .inr ⟨first :: others, final, ?_, ?_, hfinal, by omega⟩
                · show (Rust.ranges fuel later >>= fun found =>
                    Except.ok (first :: found.1, found.2)) = _
                  rw [hothers]
                  rfl
                · show (Ecma.ranges fuel later >>= fun found =>
                    Except.ok (first :: found.1, found.2)) = _
                  rw [hecmas]
                  rfl

end Classes

section Tokens

/-- The rest of a text outside of classes after a character that the scan
passes over. -/
theorem scans_outside
    {char : Char}
    {rest : List Char}
    (h : Scans false (char :: rest))
    (hescape : char ≠ '\\')
    (hclass : char ≠ '[')
    (hbrace : char ≠ '\x7b') :
    char ≠ ']' ∧ char ≠ '.' ∧ char ≠ '\x7d' ∧ Scans false rest ∧
      (char = '(' → rest.head? = some '?' → rest.tail.head? = some ':') := by
  cases h with
  | @cons _ next _ _ later hnonempty hstep htail =>
      unfold scanStep at hstep
      rw [if_neg hescape, if_neg Bool.false_ne_true, if_neg hclass] at hstep
      split at hstep
      · cases hstep
      · next hclose =>
          split at hstep
          · cases hstep
          · next hdot =>
              split at hstep
              · cases hstep
              · next hend =>
                  split at hstep
                  · cases hstep
                  · next hgroup =>
                      cases hstep
                      refine ⟨hclose, hdot, hend, htail, ?_⟩
                      simpa using hgroup

theorem scans_class
    {rest : List Char}
    (h : Scans false ('[' :: rest)) :
    Scans true rest ∧ closesAtOnce rest = false := by
  cases h with
  | cons hnonempty hstep htail =>
      cases hstep
      exact ⟨htail, hnonempty rfl rfl⟩

theorem scans_brace
    {rest : List Char}
    (h : Scans false ('\x7b' :: rest)) :
    ∃ later, consumeQuantifier rest = .ok later ∧ Scans false later := by
  cases h with
  | @cons _ next _ _ later hnonempty hstep htail =>
      obtain ⟨found, hfound, hresult⟩ :=
        (except_bind_ok hstep : ∃ found, consumeQuantifier rest = .ok found ∧
          Except.ok (false, found) = Except.ok (next, later))
      obtain ⟨rfl, rfl⟩ := Prod.mk.inj (Except.ok.inj hresult)
      exact ⟨_, hfound, htail⟩

/-- A class that is not empty reads the same in both dialects. -/
theorem charClass_agrees
    {rest : List Char}
    (h : Scans true rest)
    (hnonempty : closesAtOnce rest = false) :
    Agrees rest false (Rust.charClass rest) (Ecma.charClass rest) := by
  have hinside : Scans true (negation rest).2 ∧
      (negation rest).2.length ≤ rest.length := by
    unfold negation
    split
    · next hcaret =>
        cases rest with
        | nil => cases hcaret
        | cons char rest =>
            cases hcaret
            exact ⟨(scans_inside h (by decide) (by decide)).2.1,
              Nat.le_succ _⟩
    · exact ⟨h, Nat.le_refl _⟩
  obtain ⟨hscans, hshorter⟩ := hinside
  have hclose : (negation rest).2.head? ≠ some ']' := by
    unfold closesAtOnce at hnonempty
    simpa using hnonempty
  unfold Rust.charClass Ecma.charClass
  generalize negation rest = opened at hscans hshorter hclose ⊢
  obtain ⟨negated, chars⟩ := opened
  simp only at hscans hshorter hclose ⊢
  by_cases hdash : chars.head? = some '-'
  · cases chars with
    | nil => cases hdash
    | cons char later =>
        cases hdash
        obtain ⟨-, hlater, hdouble⟩ := scans_inside hscans (by decide)
          (by decide)
        have hnext : later.head? ≠ some '-' := hdouble (.inr (.inl rfl))
        -- one dash is a member that the one dialect reads ahead of the others
        have hleading : Rust.leading ('-' :: later) = (['-'], later) := by
          unfold Rust.leading
          cases later with
          | nil => rfl
          | cons char later =>
              have hchar : char ≠ '-' := fun hchar => hnext (by rw [hchar]; rfl)
              simp [hchar]
        have hrange : Ecma.range ('-' :: later) = .ok (('-', '-'), later) := by
          have hsingle : Ecma.opensRange later = false := by
            unfold Ecma.opensRange
            simp [hnext]
          unfold Ecma.range Ecma.classAtom
          show (if Ecma.opensRange later = true then _ else _) = _
          rw [hsingle]
          rfl
        rw [hleading]
        rcases ranges_agrees later.length (Nat.le_refl _) hlater with
          hmalformed | ⟨ranges, final, hrust, hecma, hfinal, hless⟩
        · refine .inl ?_
          show (Rust.ranges later.length later >>= fun found => _) = _
          rw [hmalformed]
          rfl
        · refine .inr ⟨⟨negated, ('-', '-') :: ranges⟩, final, ?_, ?_,
            hfinal, ?_⟩
          · show (Rust.ranges later.length later >>= fun found => _) = _
            rw [hrust]
            rfl
          · show (Ecma.ranges (later.length + 1) ('-' :: later) >>=
              fun found => _) = _
            have hwhole : Ecma.ranges (later.length + 1) ('-' :: later) =
                .ok (('-', '-') :: ranges, final) := by
              rw [Ecma.ranges, if_neg (by decide), hrange]
              show (Ecma.ranges later.length later >>= fun found => _) = _
              rw [hecma]
              rfl
            rw [hwhole]
            rfl
          · rw [List.length_cons] at hshorter
            omega
  · have hleading : Rust.leading chars = ([], chars) := by
      unfold Rust.leading
      rw [if_neg hclose]
      cases chars with
      | nil => rfl
      | cons char later =>
          have hchar : char ≠ '-' := fun hchar => hdash (by rw [hchar]; rfl)
          simp [hchar]
    rw [hleading]
    rcases ranges_agrees chars.length (Nat.le_refl _) hscans with
      hmalformed | ⟨ranges, final, hrust, hecma, hfinal, hless⟩
    · refine .inl ?_
      show (Rust.ranges chars.length chars >>= fun found => _) = _
      rw [hmalformed]
      rfl
    · refine .inr ⟨⟨negated, ranges⟩, final, ?_, ?_, hfinal, by omega⟩
      · show (Rust.ranges chars.length chars >>= fun found => _) = _
        rw [hrust]
        rfl
      · show (Ecma.ranges chars.length chars >>= fun found => _) = _
        rw [hecma]
        rfl

/-- The counts that the scan consumes are read by both dialects, or the one
finds them out of range. -/
theorem counts_agrees
    {chars later : List Char}
    (h : consumeQuantifier chars = .ok later)
    (hlater : Scans false later) :
    Agrees chars false (Rust.dialect.counts chars)
      (Ecma.dialect.counts chars) := by
  have hlength : (chars.dropWhile isDecimal).length ≤ chars.length :=
    (List.dropWhile_suffix isDecimal).length_le
  unfold consumeQuantifier at h
  unfold Dialect.counts
  simp only at h ⊢
  generalize chars.dropWhile isDecimal = rest at h hlength ⊢
  generalize chars.takeWhile isDecimal = digits at h ⊢
  split at h
  · cases h
  · next hdigits =>
      rw [if_neg hdigits, if_neg hdigits]
      have hecma : ∀ count, Ecma.dialect.isCount count = true := fun _ => rfl
      by_cases hminimum : Rust.dialect.isCount (decimalValue digits) = true
      · have hrustMinimum :
            ¬(!Rust.dialect.isCount (decimalValue digits)) = true := by
          rw [hminimum]
          exact Bool.false_ne_true
        have hecmaMinimum :
            ¬(!Ecma.dialect.isCount (decimalValue digits)) = true := by
          rw [hecma]
          exact Bool.false_ne_true
        rw [if_neg hrustMinimum, if_neg hecmaMinimum]
        split at h
        · next hend =>
            cases h
            rw [if_pos hend, if_pos hend]
            refine .inr ⟨_, _, rfl, rfl, hlater, ?_⟩
            cases rest with
            | nil => cases hend
            | cons char rest =>
                rw [List.length_cons] at hlength
                exact hlength
        · next hend =>
            rw [if_neg hend, if_neg hend]
            split at h
            · next hcomma =>
                rw [if_pos hcomma, if_pos hcomma]
                have hshorter : (rest.tail.dropWhile isDecimal).length <
                    chars.length := by
                  have htail := (List.dropWhile_suffix (l := rest.tail)
                    isDecimal).length_le
                  cases rest with
                  | nil => cases hcomma
                  | cons char rest =>
                      rw [List.tail_cons] at htail ⊢
                      rw [List.length_cons] at hlength
                      omega
                generalize rest.tail.dropWhile isDecimal = final
                  at h hshorter ⊢
                generalize rest.tail.takeWhile isDecimal = others
                split at h
                · next hclose =>
                    cases h
                    rw [if_neg (not_not.mpr hclose),
                      if_neg (not_not.mpr hclose)]
                    have hless : final.tail.length < chars.length := by
                      rw [List.length_tail]
                      omega
                    by_cases hothers : others.isEmpty = true
                    · rw [if_pos hothers, if_pos hothers]
                      exact .inr ⟨_, _, rfl, rfl, hlater, hless⟩
                    · rw [if_neg hothers, if_neg hothers]
                      by_cases hmaximum : (Rust.dialect.isCount
                          (decimalValue others) &&
                          decide (decimalValue digits ≤
                            decimalValue others)) = true
                      · rw [if_pos hmaximum]
                        rw [Bool.and_eq_true] at hmaximum
                        rw [if_pos (by rw [hecma, hmaximum.2]; rfl)]
                        exact .inr ⟨_, _, rfl, rfl, hlater, hless⟩
                      · rw [if_neg hmaximum]
                        exact .inl rfl
                · cases h
            · cases h
      · rw [if_pos (by simpa using hminimum)]
        exact .inl rfl

/-- A lazy mark leaves the scan outside of classes. -/
theorem scans_quantifier
    (counts : Nat × Option Nat)
    {rest : List Char}
    (h : Scans false rest) :
    Scans false (Dialect.quantifier counts rest).2 ∧
      (Dialect.quantifier counts rest).2.length ≤ rest.length := by
  unfold Dialect.quantifier
  split
  · next hlazy =>
      cases rest with
      | nil => cases hlazy
      | cons char rest =>
          cases hlazy
          exact ⟨(scans_outside h (by decide) (by decide)
            (by decide)).2.2.2.1, Nat.le_succ _⟩
  · exact ⟨h, Nat.le_refl _⟩

theorem opening_agrees
    {start rest : List Char}
    (h : Scans false rest)
    (hgroup : rest.head? = some '?' → rest.tail.head? = some ':')
    (hlength : rest.length < start.length) :
    Agrees start false (Dialect.opening rest) (Dialect.opening rest) := by
  unfold Dialect.opening
  by_cases hmark : rest.head? = some '?'
  · have hcolon := hgroup hmark
    rw [if_pos hmark, if_pos hcolon]
    cases rest with
    | nil => cases hmark
    | cons char rest =>
        cases hmark
        cases rest with
        | nil => cases hcolon
        | cons char rest =>
            cases hcolon
            have hcolons := (scans_outside h (by decide) (by decide)
              (by decide)).2.2.2.1
            have hrest := (scans_outside hcolons (by decide) (by decide)
              (by decide)).2.2.2.1
            refine .inr ⟨_, _, rfl, rfl, hrest, ?_⟩
            simp only [List.tail_cons, List.length_cons] at hlength ⊢
            omega
  · rw [if_neg hmark]
    exact .inr ⟨_, _, rfl, rfl, h, hlength⟩

theorem Agrees.bind
    {α β : Type}
    {start : List Char}
    {before after : Bool}
    {rust ecma : Except Refusal (α × List Char)}
    {next : α × List Char → Except Refusal (β × List Char)}
    (h : Agrees start before rust ecma)
    (hnext : ∀ value rest, Scans before rest → rest.length < start.length →
      Agrees start after (next (value, rest)) (next (value, rest))) :
    Agrees start after (rust >>= next) (ecma >>= next) := by
  rcases h with hmalformed | ⟨value, rest, hrust, hecma, hscans, hlength⟩
  · rw [hmalformed]
    exact .inl rfl
  · rw [hrust, hecma]
    exact hnext value rest hscans hlength

/-- Every token reads the same in both dialects. -/
theorem token_agrees
    {char : Char}
    {rest : List Char}
    (h : Scans false (char :: rest)) :
    Agrees (char :: rest) false (Rust.dialect.token char rest)
      (Ecma.dialect.token char rest) := by
  have hself : ∀ {later : List Char} (value : Token), Scans false later →
      later.length < (char :: rest).length →
      Agrees (char :: rest) false (.ok (value, later)) (.ok (value, later)) :=
    fun value hlater hlength => .inr ⟨value, _, rfl, rfl, hlater, hlength⟩
  unfold Dialect.token
  by_cases hescape : char = '\\'
  · subst hescape
    rw [if_pos rfl, if_pos rfl]
    obtain ⟨later, hlater, htail⟩ := scans_escape h
    obtain ⟨hlength, hread⟩ := escape_agrees hlater
    have hagrees : Agrees ('\\' :: rest) false
        (Rust.dialect.escape false rest) (Ecma.dialect.escape false rest) := by
      rcases hread with hmalformed | ⟨found, hrust, hecma⟩
      · exact .inl hmalformed
      · exact .inr ⟨found, later, hrust, hecma, htail,
          Nat.lt_succ_of_lt hlength⟩
    exact Agrees.bind hagrees (fun value later hscans hless =>
      hself (.literal value) hscans hless)
  · rw [if_neg hescape, if_neg hescape]
    by_cases hclass : char = '['
    · subst hclass
      rw [if_pos rfl, if_pos rfl]
      obtain ⟨hinside, hnonempty⟩ := scans_class h
      have hagrees : Agrees ('[' :: rest) false
          (Rust.dialect.charClass rest) (Ecma.dialect.charClass rest) := by
        rcases charClass_agrees hinside hnonempty with hmalformed |
          ⟨found, later, hrust, hecma, hscans, hless⟩
        · exact .inl hmalformed
        · exact .inr ⟨found, later, hrust, hecma, hscans,
            Nat.lt_succ_of_lt hless⟩
      exact Agrees.bind hagrees (fun value later hscans hless =>
        hself (.oneOf value) hscans hless)
    · rw [if_neg hclass, if_neg hclass]
      by_cases hbrace : char = '\x7b'
      · subst hbrace
        obtain ⟨later, hcounts, htail⟩ := scans_brace h
        have hagrees : Agrees ('\x7b' :: rest) false
            (Rust.dialect.counts rest) (Ecma.dialect.counts rest) := by
          rcases counts_agrees hcounts htail with hmalformed |
            ⟨found, later, hrust, hecma, hscans, hless⟩
          · exact .inl hmalformed
          · exact .inr ⟨found, later, hrust, hecma, hscans,
              Nat.lt_succ_of_lt hless⟩
        exact Agrees.bind hagrees (fun value later hscans hless => by
          obtain ⟨hlazy, hshorter⟩ := scans_quantifier value hscans
          exact hself (Dialect.quantifier value later).1 hlazy
            (Nat.lt_of_le_of_lt hshorter hless))
      · obtain ⟨hclose, hdot, hend, htail, hgroup⟩ :=
          scans_outside h hescape hclass hbrace
        have hless : rest.length < (char :: rest).length := Nat.lt_succ_self _
        have hquantifier : ∀ counts,
            Agrees (char :: rest) false
              (.ok (Dialect.quantifier counts rest))
              (.ok (Dialect.quantifier counts rest)) := by
          intro counts
          obtain ⟨hlazy, hshorter⟩ := scans_quantifier counts htail
          exact hself (Dialect.quantifier counts rest).1 hlazy
            (Nat.lt_of_le_of_lt hshorter hless)
        by_cases hopening : char = '('
        · rw [if_pos hopening, if_pos hopening]
          exact opening_agrees htail (hgroup hopening) hless
        · rw [if_neg hopening, if_neg hopening]
          split
          · exact hself _ htail hless
          split
          · exact hself _ htail hless
          split
          · exact hself _ htail hless
          split
          · exact hself _ htail hless
          split
          · exact hquantifier _
          split
          · exact hquantifier _
          split
          · exact hquantifier _
          have hrust : Rust.dialect.isLiteral char = true := rfl
          have hecma : Ecma.dialect.isLiteral char = true := by
            unfold Ecma.dialect
            simp [hclose, hend]
          rw [if_pos hrust, if_pos hecma]
          exact hself _ htail hless

/-- Both dialects cut a text that the scan lets through into the same
tokens, by induction on the fuel. -/
theorem tokens_agree
    (fuel : Nat)
    {chars : List Char}
    (hfuel : chars.length ≤ fuel)
    (h : Scans false chars) :
    Rust.dialect.tokens fuel chars = .error .malformed ∨
      ∃ tokens, Rust.dialect.tokens fuel chars = .ok tokens ∧
        Ecma.dialect.tokens fuel chars = .ok tokens := by
  induction fuel generalizing chars with
  | zero =>
      rw [List.length_eq_zero_iff.mp (Nat.le_zero.mp hfuel)]
      exact .inr ⟨[], rfl, rfl⟩
  | succ fuel ih =>
      cases chars with
      | nil => exact .inr ⟨[], rfl, rfl⟩
      | cons char rest =>
          rw [Dialect.tokens, Dialect.tokens]
          rcases token_agrees h with hmalformed |
            ⟨token, later, hrust, hecma, hscans, hless⟩
          · rw [hmalformed]
            exact .inl rfl
          · rw [hrust, hecma]
            have hleft : later.length ≤ fuel := by
              rw [List.length_cons] at hfuel hless
              omega
            rcases ih hleft hscans with hmalformed | ⟨tokens, hothers, hecmas⟩
            · refine .inl ?_
              show (Rust.dialect.tokens fuel later >>= fun found => _) = _
              rw [hmalformed]
              rfl
            · refine .inr ⟨token :: tokens, ?_, ?_⟩
              · show (Rust.dialect.tokens fuel later >>= fun found => _) = _
                rw [hothers]
                rfl
              · show (Ecma.dialect.tokens fuel later >>= fun found => _) = _
                rw [hecmas]
                rfl

end Tokens

end Types

end Dsql
