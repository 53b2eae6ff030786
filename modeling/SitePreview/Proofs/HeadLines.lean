import Mathlib
import SitePreview.Proofs.HeadArrival

namespace SitePreview

namespace RequestHead

/-- The lines of octets, each with its end. What follows the last end is a line without one. -/
def linesOf : Bytes → List Bytes
  | [] => []
  | octet :: octets =>
    if octet = newline then [octet] :: linesOf octets
    else match linesOf octets with
      | [] => [[octet]]
      | line :: lines => (octet :: line) :: lines

/-- More octets than the limit stand before the end of a line. -/
def Exceeds (limit : Nat) (line : Bytes) : Prop :=
  limit < (line.takeWhile (· ≠ newline)).length

/-- Single spaces divide a trimmed line into a method, a target and a part that names the protocol. -/
def IsRequestLine (line : Bytes) (method target : Text) : Prop :=
  ∃ version, (Latin.decode line).trim.splitOn ' ' = [method, target, version] ∧
    "HTTP/".toList <+: version

/-- A line gives a value to the name before its first colon; without a colon all of it is the name. -/
def IsHeader (line : Bytes) (name value : Text) : Prop :=
  ∃ front back : Text, ':' ∉ front ∧
    (Latin.decode line = front ++ ':' :: back ∨ Latin.decode line = front ∧ back = []) ∧
    name = front.trim.lower ∧ value = back.trim

/-- Of the lines that give a value to a name the last one counts. -/
def GivesLast (lines : List Bytes) (name value : Text) : Prop :=
  ∃ before line after, lines = before ++ line :: after ∧ IsHeader line name value ∧
    ∀ later ∈ after, ∀ other, ¬IsHeader later name other

def blankLines : List Bytes := [[13, 10], [10]]

/-- The lines before the first blank one, among so many. -/
def headerLines (count : Nat) (lines : List Bytes) : List Bytes :=
  (lines.take count).takeWhile (· ∉ blankLines)

/-- The header lines, and the blank one behind them if it is among so many. -/
def fieldLines (count : Nat) (lines : List Bytes) : List Bytes :=
  (lines.take count).take ((headerLines count lines).length + 1)

/-- The lines that are taken from the front of all lines. Behind a line that is no request line none is. -/
inductive Takes : List Bytes → List Bytes → Prop
  | nothing : Takes [] []
  | refused {first lines} : (∀ method target, ¬IsRequestLine first method target) →
      Takes (first :: lines) [first]
  | head {first lines method target} : IsRequestLine first method target →
      Takes (first :: lines) (first :: fieldLines headerLineLimit lines)

section Lines

variable {limit : Nat} {octets front line : Bytes} {lines : List Bytes}

theorem linesOf_ended (h : newline ∉ front) (rest : Bytes) :
    linesOf (front ++ newline :: rest) = (front ++ [newline]) :: linesOf rest := by
  induction front with
  | nil => simp [linesOf]
  | cons octet front ih =>
    obtain ⟨hoctet, hfront⟩ := List.ne_and_not_mem_of_not_mem_cons h
    simp only [List.cons_append, linesOf, if_neg (Ne.symm hoctet), ih hfront]

theorem linesOf_open (h : newline ∉ front) (hne : front ≠ []) : linesOf front = [front] := by
  induction front with
  | nil => exact absurd rfl hne
  | cons octet front ih =>
    obtain ⟨hoctet, hfront⟩ := List.ne_and_not_mem_of_not_mem_cons h
    rw [linesOf, if_neg (Ne.symm hoctet)]
    by_cases hrest : front = []
    · subst hrest
      rfl
    · rw [ih hfront hrest]

theorem linesOf_eq_nil : linesOf octets = [] ↔ octets = [] := by
  cases octets with
  | nil => simp [linesOf]
  | cons octet octets =>
    rw [linesOf]
    split
    · simp
    · split <;> simp

/-- The first line is read, unless it exceeds the limit, and the others are those of the rest. -/
theorem readLine_of_linesOf (limit : Nat) (h : linesOf octets = line :: lines) :
    line ≠ [] ∧ ∃ rest, octets = line ++ rest ∧ linesOf rest = lines ∧
      (Exceeds limit line → ∃ ended, readLine limit true octets = .overlong ended) ∧
      (¬Exceeds limit line → readLine limit true octets = .line line rest) := by
  by_cases hmem : newline ∈ octets
  · obtain ⟨front, rest, rfl, hfront⟩ := List.eq_append_cons_of_mem hmem
    rw [linesOf_ended hfront] at h
    obtain ⟨rfl, rfl⟩ := List.cons.inj h
    have hlength : Exceeds limit (front ++ [newline]) ↔ limit < front.length := by
      rw [Exceeds, takeWhile_ne_append_cons hfront]
    have hread : readLine limit true (front ++ newline :: rest) =
        if limit < front.length then .overlong true else .line (front ++ [newline]) rest := by
      simp only [readLine, takeWhile_ne_append_cons hfront, dropWhile_ne_append_cons hfront]
    refine ⟨by simp, rest, by simp, rfl, ?_, ?_⟩
    · intro hlong
      exact ⟨true, by rw [hread, if_pos (hlength.mp hlong)]⟩
    · intro hshort
      rw [hread, if_neg (mt hlength.mpr hshort)]
  · have hne : octets ≠ [] := by
      rintro rfl
      simp [linesOf] at h
    rw [linesOf_open hmem hne] at h
    obtain ⟨rfl, rfl⟩ := List.cons.inj h
    have hlength : Exceeds limit octets ↔ limit < octets.length := by
      rw [Exceeds, takeWhile_ne_of_not_mem hmem]
    have hread : readLine limit true octets =
        if limit < octets.length then .overlong false else .line octets [] := by
      simp only [readLine, takeWhile_ne_of_not_mem hmem, dropWhile_ne_of_not_mem hmem, if_true]
    refine ⟨hne, [], by simp, rfl, ?_, ?_⟩
    · intro hlong
      exact ⟨false, by rw [hread, if_pos (hlength.mp hlong)]⟩
    · intro hshort
      rw [hread, if_neg (mt hlength.mpr hshort)]

end Lines

theorem flatten_linesOf (octets : Bytes) : (linesOf octets).flatten = octets := by
  induction octets with
  | nil => rfl
  | cons octet octets ih =>
    rw [linesOf]
    split
    · simp [ih]
    · split
      next hlines => simp [linesOf_eq_nil.mp hlines]
      next line lines hlines =>
        rw [hlines] at ih
        simp [← ih]

section Fields

variable {limit count : Nat} {octets line : Bytes} {lines : List Bytes}

theorem headerLines_cons_blank (h : line ∈ blankLines) (count : Nat) (lines : List Bytes) :
    headerLines (count + 1) (line :: lines) = [] := by
  simp [headerLines, h]

theorem headerLines_cons (h : line ∉ blankLines) (count : Nat) (lines : List Bytes) :
    headerLines (count + 1) (line :: lines) = line :: headerLines count lines := by
  simp [headerLines, h]

theorem fieldLines_cons_blank (h : line ∈ blankLines) (count : Nat) (lines : List Bytes) :
    fieldLines (count + 1) (line :: lines) = [line] := by
  simp [fieldLines, headerLines_cons_blank h]

theorem fieldLines_cons (h : line ∉ blankLines) (count : Nat) (lines : List Bytes) :
    fieldLines (count + 1) (line :: lines) = line :: fieldLines count lines := by
  simp [fieldLines, headerLines_cons h]

theorem fieldLines_isPrefix (count : Nat) (lines : List Bytes) : fieldLines count lines <+: lines :=
  (List.take_prefix _ _).trans (List.take_prefix _ _)

theorem isBlankLine_iff (hne : line ≠ []) : isBlankLine line = true ↔ line ∈ blankLines := by
  simp [isBlankLine, blankLines, hne]

theorem readHeaders_of_fitting (head : RequestHead)
    (h : ∀ line ∈ fieldLines count (linesOf octets), ¬Exceeds limit line) :
    ∃ rest, octets = (fieldLines count (linesOf octets)).flatten ++ rest ∧
      readHeaders limit true count head octets = .head
        { head with
          headers := ((headerLines count (linesOf octets)).map headerOf).foldl addHeader head.headers }
        rest := by
  induction count generalizing head octets with
  | zero => exact ⟨octets, by simp [fieldLines], by simp [readHeaders, headerLines]⟩
  | succ count ih =>
    cases hlines : linesOf octets with
    | nil =>
      cases linesOf_eq_nil.mp hlines
      exact ⟨[], by simp [fieldLines], by simp [readHeaders, readLine, isBlankLine, headerLines]⟩
    | cons line lines =>
      obtain ⟨hne, rest, rfl, rfl, -, hread⟩ := readLine_of_linesOf limit hlines
      rw [hlines] at h
      by_cases hblank : line ∈ blankLines
      · rw [fieldLines_cons_blank hblank] at h ⊢
        have hline := hread (h line (by simp))
        refine ⟨rest, by simp, ?_⟩
        rw [readHeaders, hline, headerLines_cons_blank hblank]
        simp [(isBlankLine_iff hne).mpr hblank]
      · rw [fieldLines_cons hblank] at h ⊢
        have hline := hread (h line (by simp))
        obtain ⟨more, hmore, hrest⟩ := ih { head with headers := addHeader head.headers (headerOf line) }
          (fun other hother => h other (List.mem_cons_of_mem _ hother))
        refine ⟨more, ?_, ?_⟩
        · rw [List.flatten_cons, List.append_assoc, ← hmore]
        · rw [readHeaders, hline, headerLines_cons hblank]
          simp [mt (isBlankLine_iff hne).mp hblank, hrest]

theorem readHeaders_of_exceeding (head : RequestHead)
    (h : ∃ line ∈ fieldLines count (linesOf octets), Exceeds limit line) :
    ∃ ended, readHeaders limit true count head octets = .refused (.overlongLine ended) := by
  induction count generalizing head octets with
  | zero => simp [fieldLines] at h
  | succ count ih =>
    cases hlines : linesOf octets with
    | nil =>
      rw [hlines] at h
      simp [fieldLines] at h
    | cons line lines =>
      obtain ⟨hne, rest, rfl, rfl, hlong, hread⟩ := readLine_of_linesOf limit hlines
      rw [hlines] at h
      by_cases hline : Exceeds limit line
      · obtain ⟨ended, hended⟩ := hlong hline
        exact ⟨ended, by rw [readHeaders, hended]⟩
      · by_cases hblank : line ∈ blankLines
        · rw [fieldLines_cons_blank hblank] at h
          obtain ⟨other, hother, hover⟩ := h
          cases List.mem_singleton.mp hother
          exact absurd hover hline
        · rw [fieldLines_cons hblank] at h
          have hlater : ∃ other ∈ fieldLines count (linesOf rest), Exceeds limit other := by
            obtain ⟨other, hother, hover⟩ := h
            rcases List.mem_cons.mp hother with rfl | hother
            · exact absurd hover hline
            · exact ⟨other, hother, hover⟩
          obtain ⟨ended, hended⟩ :=
            ih { head with headers := addHeader head.headers (headerOf line) } hlater
          refine ⟨ended, ?_⟩
          rw [readHeaders, hread hline]
          simp [mt (isBlankLine_iff hne).mp hblank, hended]

end Fields

section Headers

variable {given headers : List (Text × Text)} {name value : Text}

theorem mem_foldl_addHeader : (name, value) ∈ given.foldl addHeader [] ↔
    ∃ before after, given = before ++ (name, value) :: after ∧ ∀ h ∈ after, h.1 ≠ name := by
  induction given using List.reverseRecOn with
  | nil => simp
  | append_singleton given h ih =>
    have hstep : (name, value) ∈ (given ++ [h]).foldl addHeader [] ↔
        ((name, value) ∈ given.foldl addHeader [] ∧ name ≠ h.1) ∨ (name, value) = h := by
      simp [List.foldl_append, addHeader]
    rw [hstep, ih]
    constructor
    · rintro (⟨⟨before, after, rfl, hafter⟩, hne⟩ | rfl)
      · refine ⟨before, after ++ [h], by simp, ?_⟩
        simpa [or_imp, forall_and, Ne.symm hne] using hafter
      · exact ⟨given, [], rfl, by simp⟩
    · rintro ⟨before, after, hgiven, hafter⟩
      rcases List.eq_nil_or_concat after with rfl | ⟨others, last, rfl⟩
      · exact Or.inr (List.singleton_inj.mp (List.append_inj' hgiven rfl).2).symm
      · rw [List.concat_eq_append, ← List.cons_append, ← List.append_assoc] at hgiven
        obtain ⟨rfl, hlast⟩ := List.append_inj' hgiven rfl
        cases hlast
        refine Or.inl ⟨⟨before, others, rfl, fun g hg => hafter g (by simp [hg])⟩, ?_⟩
        exact Ne.symm (hafter h (by simp))

theorem nodup_foldl_addHeader (given : List (Text × Text)) :
    ((given.foldl addHeader []).map Prod.fst).Nodup := by
  induction given using List.reverseRecOn with
  | nil => simp
  | append_singleton given h ih =>
    have hkept := (List.filter_sublist (p := fun g => decide (g.1 ≠ h.1))
      (l := given.foldl addHeader [])).map Prod.fst
    rw [List.foldl_append, List.foldl_cons, List.foldl_nil, addHeader, List.map_append]
    refine List.nodup_append.mpr ⟨ih.sublist hkept, by simp, ?_⟩
    simp

theorem isHeader_iff {line : Bytes} : IsHeader line name value ↔ headerOf line = (name, value) := by
  constructor
  · rintro ⟨front, back, hfront, hline | ⟨hline, rfl⟩, rfl, rfl⟩
    · simp [headerOf, hline, cutAt_append_cons hfront]
    · simp [headerOf, hline, cutAt_of_not_mem hfront]
  · intro h
    by_cases hmem : ':' ∈ Latin.decode line
    · obtain ⟨front, back, hline, hfront⟩ := List.eq_append_cons_of_mem hmem
      simp only [headerOf, hline, cutAt_append_cons hfront, Prod.mk.injEq] at h
      exact ⟨front, back, hfront, Or.inl hline, h.1.symm, h.2.symm⟩
    · simp only [headerOf, cutAt_of_not_mem hmem, Prod.mk.injEq] at h
      exact ⟨_, [], hmem, Or.inr ⟨rfl, rfl⟩, h.1.symm, h.2.symm⟩

theorem givesLast_iff {lines : List Bytes} :
    GivesLast lines name value ↔ (name, value) ∈ (lines.map headerOf).foldl addHeader [] := by
  rw [mem_foldl_addHeader]
  constructor
  · rintro ⟨before, line, after, rfl, hline, hafter⟩
    refine ⟨before.map headerOf, after.map headerOf, by simp [isHeader_iff.mp hline], ?_⟩
    intro h hh hname
    obtain ⟨later, hlater, rfl⟩ := List.mem_map.mp hh
    exact hafter later hlater (headerOf later).2 (isHeader_iff.mpr (Prod.ext hname rfl))
  · rintro ⟨before, after, hlines, hafter⟩
    obtain ⟨first, rest, rfl, rfl, hrest⟩ := List.map_eq_append_iff.mp hlines
    obtain ⟨line, later, rfl, hline, rfl⟩ := List.map_eq_cons_iff.mp hrest
    refine ⟨first, line, later, rfl, isHeader_iff.mpr hline, ?_⟩
    intro other hother v hv
    exact hafter _ (List.mem_map_of_mem hother) (congrArg Prod.fst (isHeader_iff.mp hv))

end Headers

section Whole

variable {limit : Nat} {octets first : Bytes} {lines : List Bytes} {method target : Text}

theorem requestLine?_of_isRequestLine (h : IsRequestLine first method target) :
    requestLine? first = some (Text.upper method, target) := by
  obtain ⟨version, hparts, hversion⟩ := h
  simp only [requestLine?, partsAt_eq_splitOn, hparts, List.isPrefixOf_iff_prefix.mpr hversion,
    if_true]

theorem requestLine?_of_not (h : ∀ method target, ¬IsRequestLine first method target) :
    requestLine? first = none := by
  unfold requestLine?
  split
  next method target version hparts =>
    rw [partsAt_eq_splitOn] at hparts
    refine if_neg fun hversion => ?_
    exact h method target ⟨version, hparts, List.isPrefixOf_iff_prefix.mp hversion⟩
  next => rfl

theorem read_of_overlong (hlines : linesOf octets = first :: lines) (hlong : Exceeds limit first) :
    ∃ ended, read limit true octets = .refused (.overlongLine ended) := by
  obtain ⟨-, _, -, -, hover, -⟩ := readLine_of_linesOf limit hlines
  obtain ⟨ended, hended⟩ := hover hlong
  exact ⟨ended, by rw [read, hended]⟩

theorem read_of_malformed (hlines : linesOf octets = first :: lines) (hshort : ¬Exceeds limit first)
    (h : ∀ method target, ¬IsRequestLine first method target) :
    read limit true octets = .refused (.requestLine first) := by
  obtain ⟨hne, rest, -, -, -, hline⟩ := readLine_of_linesOf limit hlines
  rw [read, hline hshort]
  simp [hne, requestLine?_of_not h]

theorem read_of_isRequestLine (hlines : linesOf octets = first :: lines)
    (hshort : ¬Exceeds limit first) (h : IsRequestLine first method target) :
    ∃ rest, octets = first ++ rest ∧ linesOf rest = lines ∧ read limit true octets =
      readHeaders limit true headerLineLimit ⟨Text.upper method, target, []⟩ rest := by
  obtain ⟨hne, rest, hoctets, hrest, -, hline⟩ := readLine_of_linesOf limit hlines
  refine ⟨rest, hoctets, hrest, ?_⟩
  rw [read, hline hshort]
  simp [hne, requestLine?_of_isRequestLine h]

theorem exists_takes (lines : List Bytes) : ∃ taken, Takes lines taken := by
  cases lines with
  | nil => exact ⟨_, .nothing⟩
  | cons first lines =>
    by_cases h : ∃ method target, IsRequestLine first method target
    · obtain ⟨method, target, hfirst⟩ := h
      exact ⟨_, .head hfirst⟩
    · exact ⟨_, .refused fun method target hfirst => h ⟨method, target, hfirst⟩⟩

theorem Takes.first_mem {taken : List Bytes} (h : Takes (first :: lines) taken) : first ∈ taken := by
  cases h with
  | refused => exact List.mem_singleton_self first
  | head => exact List.mem_cons_self

theorem Takes.eq_of_isRequestLine {taken : List Bytes} (h : Takes (first :: lines) taken)
    (hfirst : IsRequestLine first method target) :
    taken = first :: fieldLines headerLineLimit lines := by
  cases h with
  | refused hnot => exact absurd hfirst (hnot method target)
  | head => rfl

theorem Takes.isPrefix {taken : List Bytes} (h : Takes lines taken) : taken <+: lines := by
  cases h with
  | nothing => exact List.prefix_refl []
  | refused => exact List.prefix_append [_] _
  | head => exact List.cons_prefix_cons.mpr ⟨rfl, fieldLines_isPrefix _ _⟩

theorem Takes.exists_rest {taken : List Bytes} (h : Takes (linesOf octets) taken) :
    ∃ rest, octets = taken.flatten ++ rest := by
  obtain ⟨others, hothers⟩ := h.isPrefix
  exact ⟨others.flatten, by rw [← List.flatten_append, hothers, flatten_linesOf]⟩

theorem Takes.read_overlong {taken : List Bytes} (h : Takes (linesOf octets) taken)
    (hlong : ∃ line ∈ taken, Exceeds limit line) :
    ∃ ended, read limit true octets = .refused (.overlongLine ended) := by
  generalize hlines : linesOf octets = all at h
  cases h with
  | nothing => simp at hlong
  | refused => exact read_of_overlong hlines (by simpa using hlong)
  | @head first lines method target hfirst =>
    by_cases hover : Exceeds limit first
    · exact read_of_overlong hlines hover
    · obtain ⟨rest, -, rfl, hread⟩ := read_of_isRequestLine hlines hover hfirst
      obtain ⟨line, hline, hexceeds⟩ := hlong
      have hlater : line ∈ fieldLines headerLineLimit (linesOf rest) := by
        rcases List.mem_cons.mp hline with rfl | hline
        · exact absurd hexceeds hover
        · exact hline
      obtain ⟨ended, hended⟩ := readHeaders_of_exceeding ⟨Text.upper method, target, []⟩
        ⟨line, hlater, hexceeds⟩
      exact ⟨ended, hread.trans hended⟩

theorem read_head_of_fitting (hlines : linesOf octets = first :: lines)
    (hfirst : IsRequestLine first method target)
    (hfits : ∀ line ∈ first :: fieldLines headerLineLimit lines, ¬Exceeds limit line) :
    ∃ headers rest, octets = (first :: fieldLines headerLineLimit lines).flatten ++ rest ∧
      read limit true octets = .head ⟨Text.upper method, target, headers⟩ rest ∧
      (headers.map Prod.fst).Nodup ∧
      ∀ name value, (name, value) ∈ headers ↔
        GivesLast (headerLines headerLineLimit lines) name value := by
  obtain ⟨hshort, hrest⟩ := List.forall_mem_cons.mp hfits
  obtain ⟨behind, hoctets, rfl, hread⟩ := read_of_isRequestLine hlines hshort hfirst
  obtain ⟨rest, hbehind, hheaders⟩ := readHeaders_of_fitting ⟨Text.upper method, target, []⟩ hrest
  refine ⟨_, rest, ?_, hread.trans hheaders, nodup_foldl_addHeader _, fun _ _ => givesLast_iff.symm⟩
  rw [List.flatten_cons, List.append_assoc, ← hbehind, hoctets]

/-- Whatever octets a client sends before it ends its input: there is no head just without an octet;
if no line that is taken exceeds the limit, the octets are refused just if the first line is no request
line, and otherwise give its method in capitals, its target and the last value of each header name; what
is left is what follows the lines that are taken. A line beyond the limit that is taken is refused. -/
theorem read_octets (limit : Nat) (octets : Bytes) :
    ∃ taken rest, Takes (linesOf octets) taken ∧ octets = taken.flatten ++ rest ∧
      ((∃ line ∈ taken, Exceeds limit line) →
        ∃ ended, read limit true octets = .refused (.overlongLine ended)) ∧
      ((∀ line ∈ taken, ¬Exceeds limit line) →
        (read limit true octets = .silent ↔ octets = []) ∧
        ((∃ fault, read limit true octets = .refused fault) ↔ ∃ first lines,
          linesOf octets = first :: lines ∧ ∀ method target, ¬IsRequestLine first method target) ∧
        ∀ first lines method target, linesOf octets = first :: lines →
          IsRequestLine first method target →
            ∃ headers, read limit true octets = .head ⟨Text.upper method, target, headers⟩ rest ∧
              (headers.map Prod.fst).Nodup ∧
              ∀ name value, (name, value) ∈ headers ↔
                GivesLast (headerLines headerLineLimit lines) name value) := by
  obtain ⟨taken, htakes⟩ := exists_takes (linesOf octets)
  obtain ⟨rest, hrest⟩ := htakes.exists_rest
  refine ⟨taken, rest, htakes, hrest, htakes.read_overlong, fun hfits => ?_⟩
  have hhead : ∀ first lines method target, linesOf octets = first :: lines →
      IsRequestLine first method target →
        ∃ headers, read limit true octets = .head ⟨Text.upper method, target, headers⟩ rest ∧
          (headers.map Prod.fst).Nodup ∧ ∀ name value, (name, value) ∈ headers ↔
            GivesLast (headerLines headerLineLimit lines) name value := by
    intro first lines method target hlines hfirst
    rw [hlines] at htakes
    rw [htakes.eq_of_isRequestLine hfirst] at hfits hrest
    obtain ⟨headers, others, hothers, hread⟩ := read_head_of_fitting hlines hfirst hfits
    have hsame : others = rest := List.append_cancel_left (hothers.symm.trans hrest)
    exact ⟨headers, hsame ▸ hread⟩
  refine ⟨read_eq_silent, ?_, hhead⟩
  constructor
  · rintro ⟨fault, hfault⟩
    cases hlines : linesOf octets with
    | nil =>
      have hsilent : read limit true octets = .silent :=
        read_eq_silent.mpr (linesOf_eq_nil.mp hlines)
      exact nomatch hsilent.symm.trans hfault
    | cons first lines =>
      refine ⟨first, lines, rfl, fun method target hfirst => ?_⟩
      obtain ⟨headers, hread, -⟩ := hhead first lines method target hlines hfirst
      exact nomatch hread.symm.trans hfault
  · rintro ⟨first, lines, hlines, hnot⟩
    rw [hlines] at htakes
    exact ⟨_, read_of_malformed hlines (hfits first htakes.first_mem) hnot⟩

end Whole

end RequestHead

end SitePreview
