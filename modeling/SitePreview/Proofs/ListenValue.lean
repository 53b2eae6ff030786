import Mathlib.Data.List.TakeWhile
import SitePreview.Proofs.Fallible
import SitePreview.Routing.ListenPort

namespace SitePreview

/-- The digits that write the port of a listen value. They are all of the value, or they follow a
colon up to its end, before which one line end may stand. -/
inductive WritesPort : Text → Text → Prop
  | alone {digits} : digits ≠ [] → (∀ c ∈ digits, Text.isDigit c = true) → WritesPort digits digits
  | afterColon {host digits} : digits ≠ [] → (∀ c ∈ digits, Text.isDigit c = true) →
      WritesPort (host ++ ':' :: digits) digits
  | beforeLineEnd {host digits} : digits ≠ [] → (∀ c ∈ digits, Text.isDigit c = true) →
      WritesPort (host ++ ':' :: digits ++ ['\n']) digits

/-- A listen value writes a port that can be listened on. -/
def WritesUsablePort (value : Text) (port : Nat) : Prop :=
  ∃ digits, WritesPort value digits ∧ Text.digitsValue digits = port ∧ 1 ≤ port ∧ port ≤ lastPort

/-- The port of a listen value has so many digits that they cannot be read. -/
def WritesOverlongPort (value : Text) (count : Nat) : Prop :=
  ∃ digits, WritesPort value digits ∧ digits.length = count ∧ digitLimit < count

variable {host digits body value : Text}

theorem isDigit_of_mem_takeWhile {c : Char}
    (h : c ∈ (body.reverse.takeWhile Text.isDigit).reverse) : Text.isDigit c = true :=
  List.all_eq_true.mp List.all_takeWhile c (List.mem_reverse.mp h)

/-- The digits at the end of a text that follow a colon are those up to the first other character
from the end. -/
theorem digitsAfterColon_iff : (∀ c ∈ digits, Text.isDigit c = true) ∧ body = host ++ ':' :: digits ↔
    (body.reverse.takeWhile Text.isDigit).reverse = digits ∧
      body.reverse.dropWhile Text.isDigit = ':' :: host.reverse := by
  constructor
  · rintro ⟨h, rfl⟩
    have hreverse : (host ++ ':' :: digits).reverse = digits.reverse ++ ':' :: host.reverse := by simp
    have hdigits : ∀ c ∈ digits.reverse, Text.isDigit c = true :=
      fun c hc => h c (List.mem_reverse.mp hc)
    have hcolon : ¬Text.isDigit ':' = true := by decide
    rw [hreverse, List.takeWhile_append_of_pos hdigits, List.takeWhile_cons_of_neg hcolon,
      List.dropWhile_append_of_pos hdigits, List.dropWhile_cons_of_neg hcolon]
    simp
  · rintro ⟨htake, hdrop⟩
    have hsplit := List.takeWhile_append_dropWhile (p := Text.isDigit) (l := body.reverse)
    subst htake
    refine ⟨fun c hc => isDigit_of_mem_takeWhile hc, ?_⟩
    rw [hdrop] at hsplit
    calc body = body.reverse.reverse := body.reverse_reverse.symm
      _ = (body.reverse.takeWhile Text.isDigit ++ ':' :: host.reverse).reverse :=
        congrArg List.reverse hsplit.symm
      _ = host ++ ':' :: (body.reverse.takeWhile Text.isDigit).reverse := by simp

/-- A listen value without the line end that may close it. -/
def withoutLineEnd (value : Text) : Text :=
  if value.getLast? = some '\n' then value.dropLast else value

theorem withoutLineEnd_concat (body : Text) : withoutLineEnd (body ++ ['\n']) = body := by
  simp [withoutLineEnd]

theorem withoutLineEnd_of_digits (host : Text) (hne : digits ≠ [])
    (h : ∀ c ∈ digits, Text.isDigit c = true) : withoutLineEnd (host ++ digits) = host ++ digits := by
  refine if_neg fun hlast => ?_
  obtain ⟨front, hfront⟩ := List.getLast?_eq_some_iff.mp hlast
  obtain ⟨others, c, rfl⟩ := (List.eq_nil_or_concat digits).resolve_left hne
  rw [List.concat_eq_append] at hfront h
  have hends : (host ++ others) ++ [c] = front ++ ['\n'] := by rw [List.append_assoc, hfront]
  cases (List.append_inj' hends rfl).2
  exact absurd (h '\n' (by simp)) (by decide)

theorem portDigits?_eq (value : Text) : portDigits? value =
    let body := withoutLineEnd value
    let digits := (body.reverse.takeWhile Text.isDigit).reverse
    if digits ≠ [] ∧ (body.reverse.dropWhile Text.isDigit).head? = some ':' then some digits
    else if value ≠ [] ∧ value.all Text.isDigit then some value
    else none := rfl

theorem portDigits?_of_body (host : Text) (hne : digits ≠ [])
    (h : ∀ c ∈ digits, Text.isDigit c = true) (hbody : withoutLineEnd value = host ++ ':' :: digits) :
    portDigits? value = some digits := by
  obtain ⟨htake, hdrop⟩ := digitsAfterColon_iff.mp ⟨h, hbody⟩
  simp only [portDigits?_eq, htake, hdrop, List.head?_cons]
  rw [if_pos ⟨hne, trivial⟩]

theorem portDigits?_eq_some : portDigits? value = some digits ↔ WritesPort value digits := by
  constructor
  · intro h
    rw [portDigits?_eq] at h
    dsimp only at h
    split at h
    next hcolon =>
      obtain ⟨hne, hhead⟩ := hcolon
      obtain ⟨rest, hrest⟩ := List.head?_eq_some_iff.mp hhead
      obtain ⟨hdigits, hbody⟩ := digitsAfterColon_iff.mpr
        ⟨Option.some.inj h, (rest.reverse_reverse.symm ▸ hrest :
          _ = ':' :: rest.reverse.reverse)⟩
      rw [Option.some.inj h] at hne
      unfold withoutLineEnd at hbody
      split at hbody
      next hlast =>
        obtain ⟨front, rfl⟩ := List.getLast?_eq_some_iff.mp hlast
        rw [List.dropLast_concat] at hbody
        rw [hbody]
        exact .beforeLineEnd hne hdigits
      next =>
        rw [hbody]
        exact .afterColon hne hdigits
    next =>
      split at h
      next halone =>
        cases h
        exact .alone halone.1 (List.all_eq_true.mp halone.2)
      next => cases h
  · intro h
    cases h with
    | alone hne h =>
      -- A value of digits alone has no colon, so the first test fails.
      have hbody : withoutLineEnd digits = digits := withoutLineEnd_of_digits [] hne h
      have hdrop : digits.reverse.dropWhile Text.isDigit = [] :=
        List.dropWhile_eq_nil_iff.mpr fun c hc => h c (List.mem_reverse.mp hc)
      simp only [portDigits?_eq, hbody, hdrop, List.head?_nil, reduceCtorEq, and_false, if_false]
      exact if_pos ⟨hne, List.all_eq_true.mpr h⟩
    | @afterColon host digits hne h =>
      refine portDigits?_of_body host hne h ?_
      simpa using withoutLineEnd_of_digits (host ++ [':']) hne h
    | beforeLineEnd hne h => exact portDigits?_of_body _ hne h (withoutLineEnd_concat _)

theorem portNumber?_eq_error {overflow : DigitOverflow} :
    portNumber? value = .error overflow ↔ WritesOverlongPort value overflow.digits := by
  unfold portNumber? WritesOverlongPort
  simp only [← portDigits?_eq_some]
  cases portDigits? value with
  | none => simp
  | some digits =>
    obtain ⟨count⟩ := overflow
    by_cases hlong : digits.length > digitLimit
    · simp only [if_pos hlong, Except.error.injEq, DigitOverflow.mk.injEq, Option.some.injEq,
        exists_eq_left']
      constructor
      · rintro rfl
        exact ⟨rfl, hlong⟩
      · exact And.left
    · simp only [if_neg hlong, reduceCtorEq, Option.some.injEq, exists_eq_left', false_iff, not_and]
      rintro rfl
      exact hlong

theorem isUsablePort_iff {port : Nat} : isUsablePort port = true ↔ 1 ≤ port ∧ port ≤ lastPort := by
  simp [isUsablePort]

theorem writesUsablePort_iff {port : Nat} : WritesUsablePort value port ↔
    ∃ digits, portDigits? value = some digits ∧ Text.digitsValue digits = port ∧
      isUsablePort port = true := by
  simp only [WritesUsablePort, portDigits?_eq_some, isUsablePort_iff]

theorem portOfListen_of_digits (h : portDigits? value = some digits)
    (hread : ¬digitLimit < digits.length) (rest : List Text) :
    portOfListen (some (value :: rest)) = .ok (if isUsablePort (Text.digitsValue digits) then
      Text.digitsValue digits else defaultPort) := by
  simp only [portOfListen, portNumber?, h, gt_iff_lt, if_neg hread]
  rfl

/-- A listen directive listens on the usable port that its first argument writes, or on the default;
only a port with too many digits cannot be read. -/
theorem portOfListen_cons (value : Text) (rest : List Text) :
    (∀ overflow, portOfListen (some (value :: rest)) = .error overflow ↔
      WritesOverlongPort value overflow.digits) ∧
    ∀ port, portOfListen (some (value :: rest)) = .ok port →
      (∀ usable, WritesUsablePort value usable → port = usable) ∧
        ((∀ usable, ¬WritesUsablePort value usable) → port = defaultPort) := by
  constructor
  · intro overflow
    rw [← portNumber?_eq_error]
    simp only [portOfListen]
    cases portNumber? value with
    | error other => simp [bind, Except.bind]
    | ok found => cases found <;> simp [bind, Except.bind, pure, Except.pure]
  · intro port h
    simp only [writesUsablePort_iff]
    cases hdigits : portDigits? value with
    | none =>
      have hdefault : portOfListen (some (value :: rest)) = .ok defaultPort := by
        simp only [portOfListen, portNumber?, hdigits]
        rfl
      cases hdefault.symm.trans h
      simp
    | some digits =>
      by_cases hlong : digitLimit < digits.length
      · simp [portOfListen, portNumber?, hdigits, hlong, bind, Except.bind] at h
      · cases (portOfListen_of_digits hdigits hlong rest).symm.trans h
        split <;> simp_all

theorem portOfListen_usable {args : Option (List Text)} {port : Nat} (h : portOfListen args = .ok port) :
    1 ≤ port ∧ port ≤ lastPort := by
  have hdefault : 1 ≤ defaultPort ∧ defaultPort ≤ lastPort := by decide
  unfold portOfListen at h
  split at h
  next value rest =>
    obtain ⟨found, -, h⟩ := exceptBind_eq_ok.mp h
    split at h
    next n =>
      cases exceptPure_eq_ok.mp h
      split
      next husable => exact isUsablePort_iff.mp husable
      next => exact hdefault
    next =>
      cases exceptPure_eq_ok.mp h
      exact hdefault
  next =>
    cases h
    exact hdefault

/-- No run of digits in a listen value is too long to be read. -/
def HasShortRuns (value : Text) : Prop :=
  ∀ run, run <:+: value → (∀ c ∈ run, Text.isDigit c = true) → run.length ≤ digitLimit

theorem HasShortRuns.of_length (h : value.length ≤ digitLimit) : HasShortRuns value :=
  fun _ hrun _ => hrun.length_le.trans h

theorem WritesPort.isInfix (h : WritesPort value digits) : digits <:+: value := by
  cases h with
  | alone => exact List.infix_rfl
  | @afterColon host => exact ⟨host ++ [':'], [], by simp⟩
  | @beforeLineEnd host => exact ⟨host ++ [':'], ['\n'], by simp⟩

theorem WritesPort.isDigit (h : WritesPort value digits) : ∀ c ∈ digits, Text.isDigit c = true := by
  cases h with
  | alone _ hdigits | afterColon _ hdigits | beforeLineEnd _ hdigits => exact hdigits

theorem portOfListen_of_writesPort (h : WritesPort value digits) (hread : digits.length ≤ digitLimit)
    (rest : List Text) : portOfListen (some (value :: rest)) =
      .ok (if 1 ≤ Text.digitsValue digits ∧ Text.digitsValue digits ≤ lastPort then
        Text.digitsValue digits else defaultPort) := by
  rw [portOfListen_of_digits (portDigits?_eq_some.mpr h) hread.not_gt]
  simp only [isUsablePort_iff]

theorem portOfListen_of_not_writesPort (h : ∀ digits, ¬WritesPort value digits) (rest : List Text) :
    portOfListen (some (value :: rest)) = .ok defaultPort := by
  have hnone : portDigits? value = none :=
    Option.eq_none_iff_forall_ne_some.mpr fun digits hdigits => h digits (portDigits?_eq_some.mp hdigits)
  simp only [portOfListen, portNumber?, hnone]
  rfl

/-- The decimal digits of a number behind any number of zeros. -/
def paddedNumber (zeros n : Nat) : Text := List.replicate zeros '0' ++ Text.ofNat n

theorem digitsValue_paddedNumber (zeros n : Nat) : Text.digitsValue (paddedNumber zeros n) = n := by
  induction zeros with
  | zero => exact Nat.ofDigitChars_toDigits (by decide) (by decide)
  | succ zeros ih => exact ih

theorem writesPort_paddedNumber (host : Text) (zeros n : Nat) :
    WritesPort (host ++ ':' :: paddedNumber zeros n) (paddedNumber zeros n) := by
  refine .afterColon (by simp [paddedNumber, Text.ofNat]) fun c hc => ?_
  rcases List.mem_append.mp hc with hzero | hdigit
  · rw [List.eq_of_mem_replicate hzero]
    decide
  · exact Nat.isDigit_of_mem_toDigits (by decide) (by decide) hdigit

/-- Where its runs of digits can be read, a listen value is read as the port that it writes, or as the
default where it writes none that can be listened on. Any host, a colon and a port with leading zeros
write that port. -/
theorem portOfListen_reads :
    (∀ value rest, HasShortRuns value →
      (∀ digits, WritesPort value digits → portOfListen (some (value :: rest)) =
        .ok (if 1 ≤ Text.digitsValue digits ∧ Text.digitsValue digits ≤ lastPort then
          Text.digitsValue digits else defaultPort)) ∧
      ((∀ digits, ¬WritesPort value digits) →
        portOfListen (some (value :: rest)) = .ok defaultPort)) ∧
    ∀ host zeros port rest, 1 ≤ port → port ≤ lastPort → (paddedNumber zeros port).length ≤ digitLimit →
      portOfListen (some ((host ++ ':' :: paddedNumber zeros port) :: rest)) = .ok port := by
  constructor
  · intro value rest hruns
    exact ⟨fun digits h => portOfListen_of_writesPort h (hruns digits h.isInfix h.isDigit) rest,
      fun h => portOfListen_of_not_writesPort h rest⟩
  · intro host zeros port rest hleast hmost hread
    rw [portOfListen_of_writesPort (writesPort_paddedNumber host zeros port) hread,
      digitsValue_paddedNumber, if_pos ⟨hleast, hmost⟩]

/-- Several colons and a line end, a number out of range, digits of another script, and leading zeros. -/
theorem portOfListen_reads_varied :
    (HasShortRuns "a:1:00443\n".toList ∧ WritesPort "a:1:00443\n".toList "00443".toList ∧
      portOfListen (some ["a:1:00443\n".toList, "ssl".toList]) = .ok 443) ∧
    (HasShortRuns "70000".toList ∧ WritesPort "70000".toList "70000".toList ∧
      portOfListen (some ["70000".toList]) = .ok 80) ∧
    (HasShortRuns ":８０".toList ∧ (∀ digits, ¬WritesPort ":８０".toList digits) ∧
      portOfListen (some [":８０".toList]) = .ok 80) ∧
    paddedNumber 2 8080 = "008080".toList ∧ "008080".toList.length ≤ digitLimit ∧
      portOfListen (some ["[::]:008080".toList]) = .ok 8080 := by
  obtain ⟨hreads, hpadded⟩ := portOfListen_reads
  have hcolons : HasShortRuns "a:1:00443\n".toList := .of_length (by decide)
  have hwrites : WritesPort "a:1:00443\n".toList "00443".toList :=
    @WritesPort.beforeLineEnd "a:1".toList "00443".toList (by decide) (List.all_eq_true.mp (by decide))
  have hlarge : HasShortRuns "70000".toList := .of_length (by decide)
  have halone : WritesPort "70000".toList "70000".toList :=
    .alone (by decide) (List.all_eq_true.mp (by decide))
  have hwide : HasShortRuns ":８０".toList := .of_length (by decide)
  have hnone (digits : Text) : ¬WritesPort ":８０".toList digits := by
    intro h
    cases portDigits?_eq_some.mpr h
  exact ⟨⟨hcolons, hwrites, (hreads _ _ hcolons).1 _ hwrites⟩,
    ⟨hlarge, halone, (hreads _ _ hlarge).1 _ halone⟩,
    ⟨hwide, hnone, (hreads _ _ hwide).2 hnone⟩, rfl, by decide,
    hpadded "[::]".toList 2 8080 [] (by decide) (by decide) (by decide)⟩

end SitePreview
