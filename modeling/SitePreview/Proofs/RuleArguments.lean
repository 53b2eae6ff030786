import Mathlib
import SitePreview.Proofs.ConfigOutcome

namespace SitePreview

/-- The modifiers that a location's arguments may begin with. -/
def locationModifiers : List Text := [['='], ['~'], ['~', '*'], ['^', '~']]

/-- What a location's arguments select. A pattern may be empty; any other matcher that is missing or empty
is the root path. -/
inductive WritesSelector (support : PatternSupport) : List Text → Selector → Text → Bool → Prop
  | exact {rest} : WritesSelector support (['='] :: rest) .exact (orSlash rest.head?) false
  | pattern {args source ignoreCase p} : writtenPattern? args = some (source, ignoreCase) →
      Pattern.compile support source ignoreCase = .ok p →
      WritesSelector support args (.pattern p) source ignoreCase
  | final {rest} : WritesSelector support (['^', '~'] :: rest) (.prefixed true) (orSlash rest.head?) false
  | plain {args} : (∀ modifier ∈ args.head?, modifier ∉ locationModifiers) →
      WritesSelector support args (.prefixed false) (orSlash args.head?) false

theorem orSlash_orSlash (arg : Option Text) : orSlash (some (orSlash arg)) = orSlash arg := by
  rcases arg with _ | _ | _ <;> rfl

theorem selectorOf_of_unmodified {support : PatternSupport} {modifier : Text}
    (h : modifier ∉ locationModifiers) (rest : List Text) :
    selectorOf support (modifier :: rest) = .ok (.prefixed false, orSlash (some modifier), false) := by
  obtain ⟨hexact, hsensitive, hinsensitive, hfinal⟩ :
      modifier ≠ ['='] ∧ modifier ≠ ['~'] ∧ modifier ≠ ['~', '*'] ∧ modifier ≠ ['^', '~'] := by
    simpa [locationModifiers] using h
  simp [selectorOf, hexact, hsensitive, hinsensitive, hfinal]

variable {support : PatternSupport} {args : List Text} {selector : Selector} {matcher : Text} {ignoreCase : Bool}

theorem WritesSelector.selectorOf_eq (h : WritesSelector support args selector matcher ignoreCase) :
    selectorOf support args = .ok (selector, matcher, ignoreCase) := by
  cases h with
  | @exact rest => cases rest <;> rfl
  | pattern hwritten hcompiled => rw [selectorOf_of_written hwritten, hcompiled]
  | @final rest => cases rest <;> rfl
  | plain hplain =>
    cases args with
    | nil => rfl
    | cons modifier rest => exact selectorOf_of_unmodified (hplain modifier rfl) rest

theorem selectorOf_eq_ok : selectorOf support args = .ok (selector, matcher, ignoreCase) ↔
    WritesSelector support args selector matcher ignoreCase := by
  refine ⟨fun h => ?_, WritesSelector.selectorOf_eq⟩
  -- Some selector is written, and then it is the one that is read.
  have hread {s : Selector} {m : Text} {i : Bool} (hs : WritesSelector support args s m i) :
      WritesSelector support args selector matcher ignoreCase := by
    cases h.symm.trans hs.selectorOf_eq
    exact hs
  cases hwritten : writtenPattern? args with
  | some written =>
    rw [selectorOf_of_written hwritten] at h
    split at h
    next p hcompiled => exact hread (.pattern hwritten hcompiled)
    next => cases h
  | none =>
    cases args with
    | nil => exact hread (.plain (by simp))
    | cons modifier rest =>
      by_cases hmodifier : modifier ∈ locationModifiers
      · rcases (by simpa [locationModifiers] using hmodifier) with rfl | rfl | rfl | rfl
        · exact hread .exact
        · cases hwritten
        · cases hwritten
        · exact hread .final
      · exact hread (.plain (by simpa using hmodifier))

namespace LocationRule

/-- The arguments that a rule gives for a location: its modifier, if it has one, and its matcher. -/
def writtenArgs (r : LocationRule) : List Text :=
  if r.modifier = [] then [r.matcher] else [r.modifier, r.matcher]

theorem ofBlock_eq_ok {b : Block} {r : LocationRule} : ofBlock support b = .ok r ↔
    WritesSelector support b.args r.selector r.matcher r.caseInsensitive ∧
      r.proxyTarget = Node.firstArg? "proxy_pass".toList b.children ∧
      r.rootOverride = Node.firstArg? "root".toList b.children ∧
      r.tryFiles = tryFilesList (firstArgs "try_files".toList b.children) := by
  rw [ofBlock, exceptBind_eq_ok, ← selectorOf_eq_ok]
  constructor
  · rintro ⟨⟨selector, matcher, ignoreCase⟩, hselector, hr⟩
    cases hr
    exact ⟨hselector, rfl, rfl, rfl⟩
  · rintro ⟨hselector, hproxy, hroot, htry⟩
    refine ⟨_, hselector, exceptPure_eq_ok.mpr ?_⟩
    rw [← hproxy, ← hroot, ← htry]

/-- The arguments that a rule gives select what it was built from. -/
theorem writesSelector_writtenArgs {r : LocationRule}
    (h : WritesSelector support args r.selector r.matcher r.caseInsensitive) :
    WritesSelector support r.writtenArgs r.selector r.matcher r.caseInsensitive := by
  obtain ⟨selector, matcher, ignoreCase, proxyTarget, rootOverride, tryFiles⟩ := r
  cases h with
  | @exact rest =>
    have hagain : WritesSelector support [['='], orSlash rest.head?] _ _ _ := .exact
    rwa [List.head?_cons, orSlash_orSlash] at hagain
  | pattern hwritten hcompiled =>
    cases ignoreCase with
    | false => exact .pattern rfl hcompiled
    | true => exact .pattern rfl hcompiled
  | @final rest =>
    have hagain : WritesSelector support [['^', '~'], orSlash rest.head?] _ _ _ := .final
    rwa [List.head?_cons, orSlash_orSlash] at hagain
  | plain hplain =>
    -- The root path, which stands for a missing matcher, is no modifier either.
    have hmatcher : orSlash args.head? ∉ locationModifiers := by
      cases hhead : args.head? with
      | none => decide
      | some modifier =>
        cases modifier with
        | nil => decide
        | cons c cs => exact hplain _ hhead
    have hagain : WritesSelector support [orSlash args.head?] _ _ _ := .plain (by simpa using hmatcher)
    rwa [List.head?_cons, orSlash_orSlash] at hagain

/-- A location that is written with a rule's modifier and matcher, over the children it was built from,
builds that rule again. -/
theorem ofBlock_writtenArgs {b : Block} {r : LocationRule} (h : ofBlock support b = .ok r) (name : Text) :
    ofBlock support ⟨name, r.writtenArgs, b.children⟩ = .ok r := by
  obtain ⟨hselector, hchildren⟩ := ofBlock_eq_ok.mp h
  exact ofBlock_eq_ok.mpr ⟨writesSelector_writtenArgs hselector, hchildren⟩

/-- A matcher that looks like a modifier, an empty one, and a pattern that is left out. -/
theorem ofBlock_writtenArgs_sparse :
    let build := ofBlock Platform.plain.patterns
    let children : List Node := [.directive "try_files".toList [[' '], ['/', 'a', ' ']]]
    let rule (selector : Selector) (matcher : Text) (ignoreCase : Bool) : LocationRule :=
      { selector, matcher, caseInsensitive := ignoreCase, tryFiles := some [['/', 'a']] }
    let final := rule (.prefixed true) ['='] false
    let plain := rule (.prefixed false) ['/'] false
    let pattern := rule (.pattern ⟨[], true, { ignoreCase := true, unicode := true }, [none], []⟩) [] true
    (build ⟨['l'], [['^', '~'], ['=']], children⟩ = .ok final ∧
      final.writtenArgs = [['^', '~'], ['=']] ∧
      build ⟨['m'], final.writtenArgs, children⟩ = .ok final) ∧
    (build ⟨['l'], [[], ['=']], children⟩ = .ok plain ∧
      plain.writtenArgs = [['/']] ∧
      build ⟨['m'], plain.writtenArgs, children⟩ = .ok plain) ∧
    build ⟨['l'], [['~', '*']], children⟩ = .ok pattern ∧
      pattern.writtenArgs = [['~', '*'], []] ∧
      build ⟨['m'], pattern.writtenArgs, children⟩ = .ok pattern := by
  intro build children rule final plain pattern
  have hfinal : build ⟨['l'], [['^', '~'], ['=']], children⟩ = .ok final := by cbv
  have hplain : build ⟨['l'], [[], ['=']], children⟩ = .ok plain := by cbv
  have hpattern : build ⟨['l'], [['~', '*']], children⟩ = .ok pattern := by cbv
  exact ⟨⟨hfinal, rfl, ofBlock_writtenArgs hfinal ['m']⟩,
    ⟨hplain, rfl, ofBlock_writtenArgs hplain ['m']⟩,
    hpattern, rfl, ofBlock_writtenArgs hpattern ['m']⟩

end LocationRule

end SitePreview
