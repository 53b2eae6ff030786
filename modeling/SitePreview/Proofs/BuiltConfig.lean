import Mathlib
import SitePreview.Fields.BuiltRecord
import SitePreview.Proofs.BaseDirectory
import SitePreview.Proofs.ConfigOutcome
import SitePreview.Proofs.LocationPrecedence

namespace SitePreview

/-- A path from the top that has no dots to collapse, and is read as itself from anywhere. -/
structure Path.IsSettled (p : Text) : Prop where
  rooted : isAbsolute p = true
  fixed : ∀ cwd, absolute cwd p = p
  undotted : ∀ part ∈ parts p, part ≠ ['.'] ∧ part ≠ oneUp

/-- A name with something in it and no blanks around it. -/
def IsTrimmed (n : Text) : Prop := n ≠ [] ∧ n.trim = n

instance (n : Text) : Decidable (IsTrimmed n) := inferInstanceAs (Decidable (_ ∧ _))

/-- Only a pattern rule has a pattern, and it always has one; only it leaves letter case out and may have
an empty matcher. Only a prefix is final. Where there are candidates, none of them is blank. -/
structure RuleFields.IsWellFormed (f : RuleFields) : Prop where
  compiled : f.compiled.isSome = true ↔ f.kind = .pattern
  final : f.final = true → f.kind = .prefixed
  caseInsensitive : f.caseInsensitive = true → f.kind = .pattern
  matcher : f.kind ≠ .pattern → f.matcher ≠ []
  tryFiles : ∀ names, f.tryFiles = some names → names ≠ [] ∧ ∀ n ∈ names, IsTrimmed n

structure ServerConfig.IsWellFormed (config : ServerConfig) : Prop where
  listenPort : 1 ≤ config.listenPort ∧ config.listenPort ≤ lastPort
  documentRoot : Path.IsSettled config.documentRoot
  baseDir : Path.IsSettled config.baseDir
  roots : ∀ r ∈ config.locations, ∀ cwd, Path.IsSettled (config.rootFor (some r) cwd)
  indexFiles : config.indexFiles ≠ [] ∧ ∀ n ∈ config.indexFiles, IsTrimmed n

section Names

variable {p n : Text} {args : Option (List Text)}

theorem Path.IsNormal.isSettled (h : IsNormal p) : IsSettled p where
  rooted := h.isAbsolute
  fixed := absolute_of_isNormal h
  undotted := by
    intro part hpart
    by_cases hempty : part = []
    · subst hempty
      exact ⟨by decide, by decide⟩
    · have hname := h.isName part (List.mem_filter.mpr ⟨hpart, by simpa using hempty⟩)
      exact ⟨hname.notHere, hname.notUp⟩

theorem dropWhile_prefix_of_dropWhile {α : Type} {blank : α → Bool} {xs ys : List α}
    (h : ys <+: xs.dropWhile blank) : ys.dropWhile blank = ys := by
  cases ys with
  | nil => rfl
  | cons y ys =>
    obtain ⟨rest, hrest⟩ := h
    have hhead : (xs.dropWhile blank).head? = some y := by rw [← hrest]; rfl
    have hplain := List.head?_dropWhile_not blank xs
    rw [hhead] at hplain
    exact List.dropWhile_cons_of_neg (by simpa using hplain)

theorem Text.trim_trim (s : Text) : trim (trim s) = trim s := by
  have hfront : (trim s).dropWhile isBlank = trim s :=
    dropWhile_prefix_of_dropWhile (List.rdropWhile_prefix isBlank _)
  have hend : (trim s).reverse.dropWhile isBlank = (trim s).reverse := by
    rw [trim, List.reverse_reverse, List.dropWhile_idempotent]
  rw [trim, hfront, hend, List.reverse_reverse]

theorem isTrimmed_of_mem_trimmedArgs (h : n ∈ trimmedArgs args) : IsTrimmed n := by
  obtain ⟨hmem, hfilled⟩ := List.mem_filter.mp h
  obtain ⟨arg, -, rfl⟩ := List.mem_map.mp hmem
  exact ⟨by simpa using hfilled, Text.trim_trim arg⟩

theorem indexList_isTrimmed (args : Option (List Text)) :
    indexList args ≠ [] ∧ ∀ n ∈ indexList args, IsTrimmed n := by
  unfold indexList
  split
  next => exact ⟨by decide, by decide⟩
  next hsome => exact ⟨hsome, fun n hn => isTrimmed_of_mem_trimmedArgs hn⟩

theorem tryFilesList_isTrimmed {names : List Text} (h : tryFilesList args = some names) :
    names ≠ [] ∧ ∀ n ∈ names, IsTrimmed n := by
  unfold tryFilesList at h
  split at h
  next => cases h
  next hsome =>
    cases h
    exact ⟨hsome, fun n hn => isTrimmed_of_mem_trimmedArgs hn⟩

theorem orSlash_ne_nil (arg : Option Text) : orSlash arg ≠ [] := by
  unfold orSlash
  split <;> simp

end Names

section Records

variable {r : Record} {name : String} {v : Value}

theorem Record.read_of_lookup {α : Type} {a : α} {fallback : Option α} {check : Value → Checked α}
    (h : r.lookup name.toList = some v) (hv : check v = .valid a) :
    r.read name fallback check = .valid a := by
  unfold Record.read
  simp only [h, hv]
  rfl

theorem Value.orNone_ofOptional (s : Option Text) :
    Value.orNone Value.asText (.ofOptional s) = .valid s := by
  cases s <;> rfl

theorem Value.asItems_map_text (i : Nat) (ss : List Text) :
    Value.asItems Value.asText i (ss.map .text) = .valid ss := by
  induction ss generalizing i with
  | nil => rfl
  | cons s ss ih =>
    rw [List.map_cons, Value.asItems, ih]
    rfl

theorem Value.orNone_ofTexts (ss : Option (List Text)) :
    Value.orNone (Value.asListOf Value.asText) ((ss.map .ofTexts).getD .null) = .valid ss := by
  cases ss with
  | none => rfl
  | some ss =>
    show some <$> Value.asItems Value.asText 0 (ss.map .text) = _
    rw [Value.asItems_map_text]
    rfl

theorem RuleKind.asOneOf_name (k : RuleKind) : Value.asOneOf RuleKind.named (.text k.name) = .valid k := by
  cases k <;> rfl

theorem LocationRule.Draft.ofRecord_record (d : Draft) : Draft.ofRecord d.record = .valid d := by
  have hkind : d.record.read "kind" none (Value.asOneOf RuleKind.named) = .valid d.kind :=
    Record.read_of_lookup rfl (RuleKind.asOneOf_name d.kind)
  have hmatcher : d.record.read "matcher" (some ['/']) Value.asText = .valid d.matcher :=
    Record.read_of_lookup rfl rfl
  have hcase : d.record.read "case_insensitive" (some false) Value.asBoolean =
      .valid d.caseInsensitive := Record.read_of_lookup rfl rfl
  have hfinal : d.record.read "stop_on_match" (some false) Value.asBoolean = .valid d.final :=
    Record.read_of_lookup rfl rfl
  have hproxy : d.record.read "proxy_target" (some none) (Value.orNone Value.asText) =
      .valid d.proxyTarget := Record.read_of_lookup rfl (Value.orNone_ofOptional d.proxyTarget)
  have hroot : d.record.read "root_override" (some none) (Value.orNone Value.asText) =
      .valid d.rootOverride := Record.read_of_lookup rfl (Value.orNone_ofOptional d.rootOverride)
  have htry : d.record.read "try_files" (some none) (Value.orNone (Value.asListOf Value.asText)) =
      .valid d.tryFiles := Record.read_of_lookup rfl (Value.orNone_ofTexts d.tryFiles)
  rw [Draft.ofRecord, hkind, hmatcher, hcase, hfinal, hproxy, hroot, htry]
  rfl

/-- What fields are checked as is what their record is checked as. -/
theorem RuleFields.ofRecord_record (f : RuleFields) :
    LocationRule.ofRecord f.record f.compiled = f.checked := by
  rw [LocationRule.ofRecord, LocationRule.Draft.ofRecord_record]
  rfl

theorem ServerConfig.ofRecord_record {config : ServerConfig} (h : config.IsWellFormed) :
    ofRecord config.record config.locations = .valid config := by
  obtain ⟨hleast, hmost⟩ := h.listenPort
  have hport : config.record.read "listen_port" (some defaultPort) portNumber =
      .valid config.listenPort := by
    refine Record.read_of_lookup rfl ?_
    have hwhole : Value.asInteger (.number config.listenPort 0) = .valid (config.listenPort : Int) := by
      simp [Value.asInteger]
    have hlow : ¬(config.listenPort : Int) < 1 := by omega
    have hhigh : ¬(config.listenPort : Int) > (lastPort : Int) := by omega
    simp only [portNumber, hwhole, Checked.further, Value.atLeast, if_neg hlow, Value.atMost, if_neg hhigh]
    rfl
  have hroot : config.record.read "document_root" none absoluteText = .valid config.documentRoot := by
    refine Record.read_of_lookup rfl ?_
    simp only [absoluteText, Value.asText, Checked.further, h.documentRoot.rooted, if_true]
  have hindex : config.record.read "index_files" (some defaultIndexFiles) indexNames =
      .valid config.indexFiles := by
    refine Record.read_of_lookup rfl ?_
    simp only [indexNames, Value.ofTexts, Value.asListOf, Value.asItems_map_text, Checked.further,
      if_neg h.indexFiles.1]
  have hbase : config.record.read "base_dir" none absoluteText = .valid config.baseDir := by
    refine Record.read_of_lookup rfl ?_
    simp only [absoluteText, Value.asText, Checked.further, h.baseDir.rooted, if_true]
  rw [ofRecord, hport, hroot, hindex, hbase]
  rfl

end Records

section Rules

variable {support : PatternSupport} {b : Block} {f : RuleFields} {r : LocationRule}

/-- The fields that belong to the selector which arguments write. -/
inductive RuleFields.Selects (support : PatternSupport) (args : List Text) (f : RuleFields) : Prop
  | exact (kind : f.kind = .exact) (filled : f.matcher ≠ []) (cased : f.caseInsensitive = false)
    (notFinal : f.final = false) (bare : f.compiled = none)
    (written : selectorOf support args = .ok (.exact, f.matcher, f.caseInsensitive))
  | prefixed (kind : f.kind = .prefixed) (filled : f.matcher ≠ []) (cased : f.caseInsensitive = false)
    (bare : f.compiled = none)
    (written : selectorOf support args = .ok (.prefixed f.final, f.matcher, f.caseInsensitive))
  | pattern {p : Pattern} (kind : f.kind = .pattern) (notFinal : f.final = false)
    (holds : f.compiled = some p)
    (written : selectorOf support args = .ok (.pattern p, f.matcher, f.caseInsensitive))

/-- What a location's block sets. -/
structure RuleFields.TakenFrom (support : PatternSupport) (b : Block) (f : RuleFields) : Prop where
  selects : f.Selects support b.args
  proxyTarget : f.proxyTarget = Node.firstArg? "proxy_pass".toList b.children
  rootOverride : f.rootOverride = Node.firstArg? "root".toList b.children
  tryFiles : f.tryFiles = tryFilesList (firstArgs "try_files".toList b.children)

/-- Fields and selector are read from a block alike, and fail alike. -/
theorem RuleFields.ofBlock_cases (support : PatternSupport) (b : Block) :
    (∃ f, ofBlock support b = .ok f ∧ f.TakenFrom support b) ∨
      ∃ e, ofBlock support b = .error e ∧ selectorOf support b.args = .error e := by
  have hfilled (arg : Option Text) : orSlash arg ≠ [] := orSlash_ne_nil arg
  unfold ofBlock selectorOf
  simp only
  by_cases hexact : b.args.head?.getD [] = ['=']
  · refine Or.inl ⟨_, if_pos hexact, .exact rfl (hfilled _) rfl rfl rfl ?_, rfl, rfl, rfl⟩
    simp only [selectorOf, if_pos hexact]
    rfl
  · by_cases hpattern : b.args.head?.getD [] = ['~'] ∨ b.args.head?.getD [] = ['~', '*']
    · simp only [if_neg hexact, if_pos hpattern]
      cases hcompiled : Pattern.compile support (b.args[1]?.getD [])
          (b.args.head?.getD [] = ['~', '*']) with
      | ok p =>
        refine Or.inl ⟨_, rfl, .pattern rfl rfl rfl ?_, rfl, rfl, rfl⟩
        simp only [selectorOf, if_neg hexact, if_pos hpattern, hcompiled]
        rfl
      | error fault => exact Or.inr ⟨_, rfl, rfl⟩
    · by_cases hfinal : b.args.head?.getD [] = ['^', '~']
      · simp only [if_neg hexact, if_neg hpattern, if_pos hfinal]
        refine Or.inl ⟨_, rfl, .prefixed rfl (hfilled _) rfl rfl ?_, rfl, rfl, rfl⟩
        simp only [selectorOf, if_neg hexact, if_neg hpattern, if_pos hfinal]
        rfl
      · simp only [if_neg hexact, if_neg hpattern, if_neg hfinal]
        refine Or.inl ⟨_, rfl, .prefixed rfl (hfilled _) rfl rfl ?_, rfl, rfl, rfl⟩
        simp only [selectorOf, if_neg hexact, if_neg hpattern, if_neg hfinal]
        rfl

theorem RuleFields.TakenFrom.isWellFormed (h : f.TakenFrom support b) : f.IsWellFormed := by
  have htry (names : List Text) (hnames : f.tryFiles = some names) :
      names ≠ [] ∧ ∀ n ∈ names, IsTrimmed n :=
    tryFilesList_isTrimmed (h.tryFiles.symm.trans hnames)
  cases h.selects with
  | exact kind filled cased notFinal bare written =>
    exact ⟨by simp [kind, bare], by simp [notFinal], by simp [cased], fun _ => filled, htry⟩
  | prefixed kind filled cased bare written =>
    exact ⟨by simp [kind, bare], fun _ => kind, by simp [cased], fun _ => filled, htry⟩
  | pattern kind notFinal holds written =>
    exact ⟨by simp [kind, holds], by simp [notFinal], fun _ => kind, fun h => absurd kind h, htry⟩

theorem RuleFields.Selects.selector {args : List Text} (h : f.Selects support args) :
    ∃ s, f.selector f.compiled = .valid s ∧
      selectorOf support args = .ok (s, f.matcher, f.caseInsensitive) ∧
      ∀ r : LocationRule, r.selector = s →
        r.fields.kind = f.kind ∧ r.fields.final = f.final ∧ r.fields.compiled = f.compiled := by
  cases h with
  | exact kind filled cased notFinal bare written =>
    refine ⟨_, by simp [LocationRule.Draft.selector, kind, notFinal, bare], written, fun r hr => ?_⟩
    simp [LocationRule.fields, LocationRule.isFinal, hr, Selector.kind, Selector.compiled?, kind,
      notFinal, bare]
  | prefixed kind filled cased bare written =>
    refine ⟨_, by simp [LocationRule.Draft.selector, kind, bare], written, fun r hr => ?_⟩
    simp [LocationRule.fields, LocationRule.isFinal, hr, Selector.kind, Selector.compiled?, kind, bare]
  | pattern kind notFinal holds written =>
    refine ⟨_, by simp [LocationRule.Draft.selector, kind, notFinal, holds], written, fun r hr => ?_⟩
    simp [LocationRule.fields, LocationRule.isFinal, hr, Selector.kind, Selector.compiled?, kind,
      notFinal, holds]

/-- The checks let through what a block gives and make of it the rule that is built from the block,
which shows the same fields. -/
theorem RuleFields.TakenFrom.exists_accepted (h : f.TakenFrom support b) :
    ∃ r, LocationRule.ofBlock support b = .ok r ∧ f.Accepted r ∧ r.fields = f := by
  obtain ⟨s, hselector, hwritten, hshown⟩ := h.selects.selector
  have htry : f.tryFiles ≠ some [] := fun hnone => (h.isWellFormed.tryFiles [] hnone).1 rfl
  let r : LocationRule := {
    selector := s
    matcher := f.matcher
    caseInsensitive := f.caseInsensitive
    proxyTarget := f.proxyTarget
    rootOverride := f.rootOverride
    tryFiles := f.tryFiles }
  obtain ⟨hkind, hfinal, hcompiled⟩ := hshown r rfl
  refine ⟨r, ?_, Checked.map_eq_valid.mpr ⟨s, hselector, ?_⟩, ?_⟩
  · rw [LocationRule.ofBlock, hwritten, ← h.proxyTarget, ← h.rootOverride, ← h.tryFiles]
    rfl
  · rw [if_neg htry]
  · have hfields : r.fields = { f with
        kind := r.fields.kind, final := r.fields.final, compiled := r.fields.compiled } := rfl
    rw [hfields, hkind, hfinal, hcompiled]

theorem RuleFields.takenFrom_of_ofBlock (h : ofBlock support b = .ok f) : f.TakenFrom support b := by
  rcases ofBlock_cases support b with ⟨_, hf, htaken⟩ | ⟨e, he, -⟩
  · cases h.symm.trans hf
    exact htaken
  · cases h.symm.trans he

theorem fields_of_ofBlock (h : LocationRule.ofBlock support b = .ok r) :
    RuleFields.ofBlock support b = .ok r.fields ∧ r.fields.IsWellFormed ∧ r.fields.Accepted r := by
  rcases RuleFields.ofBlock_cases support b with ⟨f, hf, htaken⟩ | ⟨e, -, he⟩
  · obtain ⟨built, hbuilt, haccepted, hshown⟩ := htaken.exists_accepted
    cases h.symm.trans hbuilt
    rw [hshown]
    exact ⟨hf, htaken.isWellFormed, haccepted⟩
  · rw [LocationRule.ofBlock, he] at h
    cases h

end Rules

theorem forall₂_of_mapM {ε α β : Type} {f : α → Except ε β} {xs : List α} {ys : List β}
    (h : xs.mapM f = .ok ys) : List.Forall₂ (fun x y => f x = .ok y) xs ys := by
  induction xs generalizing ys with
  | nil =>
    cases exceptPure_eq_ok.mp h
    exact .nil
  | cons x xs ih =>
    rw [List.mapM_cons] at h
    obtain ⟨y, hy, h⟩ := exceptBind_eq_ok.mp h
    obtain ⟨rest, hrest, h⟩ := exceptBind_eq_ok.mp h
    cases exceptPure_eq_ok.mp h
    exact .cons hy (ih hrest)

namespace ServerConfig

variable {support : PatternSupport} {cwd baseDir : Text} {server : Block} {nodes : List Node} {config : ServerConfig}

theorem isNormal_rootOf {base : Text} (hbase : Path.IsNormal base) (cwd : Text) (server : Block) :
    Path.IsNormal (rootOf cwd base server) := by
  unfold rootOf
  split
  next c cs _ => exact Path.absolute_isNormal_of_rooted (Path.isAbsolute_join hbase.isAbsolute _) cwd
  next => exact hbase

theorem isNormal_rootFor (hbase : Path.IsNormal config.baseDir)
    (hroot : Path.IsNormal config.documentRoot) (location : Option LocationRule) (cwd : Text) :
    Path.IsNormal (config.rootFor location cwd) := by
  unfold rootFor
  split
  next c cs _ => exact Path.absolute_isNormal_of_rooted (Path.isAbsolute_join hbase.isAbsolute _) cwd
  next => exact hroot

theorem ofServer_isWellFormed (hcwd : Path.isAbsolute cwd = true)
    (h : ofServer support cwd baseDir server = .ok config) : config.IsWellFormed := by
  obtain ⟨locations, port, -, hport, rfl⟩ := ofServer_eq_ok.mp h
  have hbase : Path.IsNormal (Path.absolute cwd baseDir) := Path.absolute_isNormal hcwd baseDir
  have hroot := isNormal_rootOf hbase cwd server
  exact {
    listenPort := portOfListen_usable hport
    documentRoot := hroot.isSettled
    baseDir := hbase.isSettled
    roots := fun r _ there => (isNormal_rootFor hbase hroot (some r) there).isSettled
    indexFiles := indexList_isTrimmed _ }

/-- What is built is well formed, has a well-formed rule for each location of the first server in
their order, and passes its checks, as do its rules and whatever fields a location gives. -/
theorem ofNodes_isWellFormed (hcwd : Path.isAbsolute cwd = true)
    (h : ofNodes support cwd baseDir nodes = .ok (some config)) :
    config.IsWellFormed ∧ ofRecord config.record config.locations = .valid config ∧
      (∃ server, Node.FirstServer nodes server ∧
        List.Forall₂ (fun b r => RuleFields.ofBlock support b = .ok r.fields ∧ r.fields.IsWellFormed ∧
            LocationRule.ofRecord r.fields.record r.fields.compiled = .valid r)
          (Node.blocksNamed "location".toList server.children) config.locations) ∧
      ∀ b f, RuleFields.ofBlock support b = .ok f →
        f.IsWellFormed ∧ ∃ r, LocationRule.ofRecord f.record f.compiled = .valid r := by
  obtain ⟨server, hserver, hconfig⟩ := ofNodes_eq_ok_some.mp h
  have hwell := ofServer_isWellFormed hcwd hconfig
  obtain ⟨locations, _, hrules, -, rfl⟩ := ofServer_eq_ok.mp hconfig
  refine ⟨hwell, ofRecord_record hwell, ⟨server, serverBlock?_eq_some.mp hserver, ?_⟩, fun b f hf => ?_⟩
  · refine (forall₂_of_mapM hrules).imp fun b r hr => ?_
    obtain ⟨hfields, hrule, haccepted⟩ := fields_of_ofBlock hr
    exact ⟨hfields, hrule, r.fields.ofRecord_record.trans haccepted⟩
  · have htaken := RuleFields.takenFrom_of_ofBlock hf
    obtain ⟨r, -, haccepted, -⟩ := htaken.exists_accepted
    exact ⟨htaken.isWellFormed, r, f.ofRecord_record.trans haccepted⟩

end ServerConfig

/-- A server with a location of each kind. -/
def variedNodes : List Node :=
  [.block "http".toList [] [.block "server".toList [] [
    .directive "listen".toList ["localhost:99999".toList],
    .directive "root".toList ["./pub/../www".toList],
    .directive "index".toList [[' '], " home.html ".toList],
    .block "location".toList [['=']] [.directive "try_files".toList [[' ']]],
    .block "location".toList [['~']] [.directive "root".toList ["../media".toList]],
    .block "location".toList [['^', '~'], "/a".toList] [
      .directive "try_files".toList ["/b.html ".toList]]]]]

def variedConfig : ServerConfig where
  documentRoot := "/srv/www".toList
  indexFiles := ["home.html".toList]
  baseDir := "/srv".toList
  locations := [
    { selector := .exact, matcher := ['/'] },
    { selector := .pattern RuleFields.emptyPattern, matcher := [],
      rootOverride := some "../media".toList },
    { selector := .prefixed true, matcher := "/a".toList,
      tryFiles := some ["/b.html".toList] }]

theorem ServerConfig.ofNodes_isWellFormed_varied :
    Path.isAbsolute ['/'] = true ∧
      ofNodes Platform.plain.patterns ['/'] "srv".toList variedNodes = .ok (some variedConfig) ∧
      variedConfig.IsWellFormed ∧
      ofRecord variedConfig.record variedConfig.locations = .valid variedConfig := by
  have hbuilt : ofNodes Platform.plain.patterns ['/'] "srv".toList variedNodes = .ok (some variedConfig) := by cbv
  obtain ⟨hwell, haccepted, -⟩ := ofNodes_isWellFormed rfl hbuilt
  exact ⟨rfl, hbuilt, hwell, haccepted⟩

end SitePreview
