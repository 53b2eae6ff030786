import SitePreview.Proofs.FirstServer
import SitePreview.Proofs.Lexemes
import SitePreview.Proofs.ListenValue
import SitePreview.Proofs.ParseFailure

namespace SitePreview

/-- The pattern that a location's arguments ask for, and whether letter case is left out. -/
def writtenPattern? : List Text → Option (Text × Bool)
  | ['~'] :: rest => some (rest.head?.getD [], false)
  | ['~', '*'] :: rest => some (rest.head?.getD [], true)
  | _ => none

/-- A location's arguments ask for a pattern that cannot be compiled. -/
def PatternRefused (support : PatternSupport) (args : List Text) (source : Text) (fault : PatternFault) : Prop :=
  ∃ ignoreCase, writtenPattern? args = some (source, ignoreCase) ∧
    Pattern.compile support source ignoreCase = .error fault

/-- The first location among some nodes whose pattern cannot be compiled. -/
inductive Node.FirstRefused (support : PatternSupport) : List Node → Text → PatternFault → Prop
  | here {args children nodes source fault} : PatternRefused support args source fault →
      FirstRefused support (.block "location".toList args children :: nodes) source fault
  | later {node nodes source fault} :
      (∀ args children, node = .block "location".toList args children →
        ∀ other cause, ¬PatternRefused support args other cause) →
      FirstRefused support nodes source fault → FirstRefused support (node :: nodes) source fault

/-- The first server of the first http block. -/
def Node.FirstServer (nodes : List Node) (server : Block) : Prop :=
  ∃ http, FirstBlock "http".toList nodes http ∧ FirstBlock "server".toList http.children server

variable {support : PatternSupport} {args : List Text} {nodes : List Node} {e : BuildError}

theorem selectorOf_of_written {source : Text} {ignoreCase : Bool}
    (h : writtenPattern? args = some (source, ignoreCase)) :
    selectorOf support args = match Pattern.compile support source ignoreCase with
      | .ok p => .ok (.pattern p, source, ignoreCase)
      | .error fault => .error (.badPattern source fault) := by
  unfold writtenPattern? at h
  split at h
  next rest =>
    cases h
    cases rest <;> rfl
  next rest =>
    cases h
    cases rest <;> rfl
  next => cases h

theorem selectorOf_of_plain (support : PatternSupport) (h : writtenPattern? args = none) :
    ∃ found, selectorOf support args = .ok found := by
  have hsensitive : args.head?.getD [] ≠ ['~'] := by
    intro hhead
    cases args with
    | nil => cases hhead
    | cons modifier rest =>
      cases (show modifier = ['~'] from hhead)
      cases h
  have hinsensitive : args.head?.getD [] ≠ ['~', '*'] := by
    intro hhead
    cases args with
    | nil => cases hhead
    | cons modifier rest =>
      cases (show modifier = ['~', '*'] from hhead)
      cases h
  simp only [selectorOf, hsensitive, hinsensitive, or_self, if_false]
  split
  · exact ⟨_, rfl⟩
  · split <;> exact ⟨_, rfl⟩

theorem selectorOf_eq_error : selectorOf support args = .error e ↔
    ∃ source fault, e = .badPattern source fault ∧ PatternRefused support args source fault := by
  unfold PatternRefused
  cases hwritten : writtenPattern? args with
  | none =>
    obtain ⟨found, hfound⟩ := selectorOf_of_plain support hwritten
    simp [hfound]
  | some written =>
    obtain ⟨source, ignoreCase⟩ := written
    rw [selectorOf_of_written hwritten]
    constructor
    · intro h
      split at h
      next => cases h
      next fault hcompiled =>
        cases h
        exact ⟨source, fault, rfl, ignoreCase, rfl, hcompiled⟩
    · rintro ⟨_, fault, rfl, _, ⟨⟩, hcompiled⟩
      simp only [hcompiled]

theorem ofBlock_eq_error {b : Block} : LocationRule.ofBlock support b = .error e ↔
    ∃ source fault, e = .badPattern source fault ∧ PatternRefused support b.args source fault := by
  unfold LocationRule.ofBlock
  rw [exceptBind_eq_error, selectorOf_eq_error]
  simp [pure, Except.pure]

theorem exists_ofBlock {b : Block} (h : ∀ source fault, ¬PatternRefused support b.args source fault) :
    ∃ rule, LocationRule.ofBlock support b = .ok rule := by
  cases hrule : LocationRule.ofBlock support b with
  | ok rule => exact ⟨rule, rfl⟩
  | error e =>
    obtain ⟨source, fault, _, hrefused⟩ := ofBlock_eq_error.mp hrule
    exact absurd hrefused (h source fault)

theorem not_patternRefused_of_ofBlock {b : Block} {rule : LocationRule}
    (h : LocationRule.ofBlock support b = .ok rule) (source : Text) (fault : PatternFault) :
    ¬PatternRefused support b.args source fault := by
  intro hrefused
  cases h.symm.trans (ofBlock_eq_error.mpr ⟨source, fault, rfl, hrefused⟩)

theorem mapM_ofBlock_eq_error : (Node.blocksNamed "location".toList nodes).mapM (LocationRule.ofBlock support) =
    .error e ↔ ∃ source fault, e = .badPattern source fault ∧ Node.FirstRefused support nodes source fault := by
  induction nodes with
  | nil =>
    constructor
    · intro h
      cases h
    · rintro ⟨_, _, _, ⟨⟩⟩
  | cons node nodes ih =>
    by_cases hnode : ∃ args children, node = .block "location".toList args children
    · obtain ⟨args, children, rfl⟩ := hnode
      rw [blocksNamed_cons_block, List.mapM_cons, exceptBind_eq_error, ofBlock_eq_error]
      simp only [exceptBind_eq_error, ih, pure, Except.pure, reduceCtorEq, and_false, exists_false,
        or_false]
      constructor
      · rintro (⟨source, fault, rfl, hrefused⟩ | ⟨rule, hrule, source, fault, rfl, hlater⟩)
        · exact ⟨source, fault, rfl, .here hrefused⟩
        · refine ⟨source, fault, rfl, .later ?_ hlater⟩
          rintro _ _ ⟨⟩
          exact not_patternRefused_of_ofBlock hrule
      · rintro ⟨source, fault, rfl, hrefused⟩
        cases hrefused with
        | here hrefused => exact .inl ⟨source, fault, rfl, hrefused⟩
        | later hfirst hlater =>
          obtain ⟨rule, hrule⟩ := exists_ofBlock (b := ⟨"location".toList, args, children⟩)
            (hfirst args children rfl)
          exact .inr ⟨rule, hrule, source, fault, rfl, hlater⟩
    · have hother : ∀ args children, node ≠ .block "location".toList args children :=
        fun args children heq => hnode ⟨args, children, heq⟩
      rw [blocksNamed_cons_of_ne hother, ih]
      constructor
      · rintro ⟨source, fault, rfl, hrefused⟩
        exact ⟨source, fault, rfl, .later (fun args children heq => absurd heq (hother args children)) hrefused⟩
      · rintro ⟨source, fault, rfl, hrefused⟩
        cases hrefused with
        | here => exact absurd rfl (hother _ _)
        | later _ hrefused => exact ⟨source, fault, rfl, hrefused⟩

namespace ServerConfig

variable {cwd baseDir : Text} {server : Block}

theorem exists_rulesOf : (∃ rules, rulesOf support server = .ok rules) ↔
    ∀ source fault, ¬Node.FirstRefused support server.children source fault := by
  unfold rulesOf
  constructor
  · rintro ⟨rules, hrules⟩ source fault hrefused
    cases hrules.symm.trans (mapM_ofBlock_eq_error.mpr ⟨source, fault, rfl, hrefused⟩)
  · intro h
    cases hrules : (Node.blocksNamed "location".toList server.children).mapM (LocationRule.ofBlock support) with
    | ok rules => exact ⟨rules, rfl⟩
    | error e =>
      obtain ⟨source, fault, _, hrefused⟩ := mapM_ofBlock_eq_error.mp hrules
      exact absurd hrefused (h source fault)

theorem ofServer_eq_error : ofServer support cwd baseDir server = .error e ↔
    (∃ source fault, e = .badPattern source fault ∧
      Node.FirstRefused support server.children source fault) ∨
    (∀ source fault, ¬Node.FirstRefused support server.children source fault) ∧
      ∃ overflow, portOfListen (firstArgs "listen".toList server.children) = .error overflow ∧
        e = .badPort overflow := by
  rw [← exists_rulesOf]
  unfold ofServer
  simp only [exceptBind_eq_error, exceptMapError_eq_error, pure, Except.pure, reduceCtorEq, and_false,
    exists_false, or_false, eq_comm (a := e)]
  constructor
  · rintro (hrules | ⟨rules, hrules, overflow, hport, he⟩)
    · obtain ⟨source, fault, rfl, hrefused⟩ := mapM_ofBlock_eq_error.mp hrules
      exact .inl ⟨source, fault, rfl, hrefused⟩
    · exact .inr ⟨⟨rules, hrules⟩, overflow, hport, he⟩
  · rintro (⟨source, fault, rfl, hrefused⟩ | ⟨⟨rules, hrules⟩, overflow, hport, he⟩)
    · exact .inl (mapM_ofBlock_eq_error.mpr ⟨source, fault, rfl, hrefused⟩)
    · exact .inr ⟨rules, hrules, overflow, hport, he⟩

theorem ofServer_listenPort {config : ServerConfig} (h : ofServer support cwd baseDir server = .ok config) :
    portOfListen (firstArgs "listen".toList server.children) = .ok config.listenPort := by
  obtain ⟨_, _, _, hport, rfl⟩ := ofServer_eq_ok.mp h
  exact hport

end ServerConfig

/-- The listen value of a server, which is the first argument of its first listen directive. -/
def Block.ListenValue (server : Block) (value : Text) : Prop :=
  ∃ rest, Node.FirstArgs "listen".toList server.children (value :: rest)

theorem Block.listenValue_or_default (server : Block) :
    (∃ value rest, firstArgs "listen".toList server.children = some (value :: rest)) ∨
      (∀ value, ¬server.ListenValue value) ∧
        portOfListen (firstArgs "listen".toList server.children) = .ok defaultPort := by
  simp only [Block.ListenValue, ← firstArgs_eq_some]
  cases firstArgs "listen".toList server.children with
  | none => exact .inr ⟨by simp, rfl⟩
  | some args =>
    cases args with
    | nil => exact .inr ⟨by simp, rfl⟩
    | cons value rest => exact .inl ⟨value, rest, rfl⟩

theorem Block.listenValue_iff {server : Block} {value other : Text} {rest : List Text}
    (h : firstArgs "listen".toList server.children = some (value :: rest)) :
    server.ListenValue other ↔ other = value := by
  simp only [Block.ListenValue, ← firstArgs_eq_some, h]
  simp [eq_comm]

namespace ServerConfig

theorem portOfListen_eq_error {server : Block} {overflow : DigitOverflow} :
    portOfListen (firstArgs "listen".toList server.children) = .error overflow ↔
      ∃ value, server.ListenValue value ∧ WritesOverlongPort value overflow.digits := by
  rcases server.listenValue_or_default with ⟨value, rest, hlisten⟩ | ⟨hnone, hport⟩
  · simp only [Block.listenValue_iff hlisten, exists_eq_left, hlisten]
    exact (portOfListen_cons value rest).1 overflow
  · rw [hport]
    simp [hnone]

theorem listenPort_of_listen {server : Block} {port : Nat}
    (h : portOfListen (firstArgs "listen".toList server.children) = .ok port) :
    (∀ value usable, server.ListenValue value → WritesUsablePort value usable → port = usable) ∧
      ((∀ value usable, server.ListenValue value → ¬WritesUsablePort value usable) →
        port = defaultPort) := by
  rcases server.listenValue_or_default with ⟨value, rest, hlisten⟩ | ⟨hnone, hport⟩
  · rw [hlisten] at h
    simp only [Block.listenValue_iff hlisten]
    obtain ⟨husable, hdefault⟩ := (portOfListen_cons value rest).2 port h
    refine ⟨?_, fun hno => hdefault fun usable => hno value usable rfl⟩
    rintro _ usable rfl
    exact husable usable
  · refine ⟨fun value _ hvalue => absurd hvalue (hnone value), fun _ => ?_⟩
    cases hport.symm.trans h
    rfl

/-- A text whose blocks there is room for is read. It gives no configuration just if there is no first server; a
refused pattern of that server is reported for the first location that has one, and an overlong port only if no
pattern is refused. In a configuration the port is the usable one that the listen value writes, or the default.
Of the two reports only that of a malformed pattern is foreseen. -/
theorem ofNodes_outcome (platform : Platform) (cwd baseDir text : Text)
    (hdepth : blockDepth (tokenize text) ≤ platform.blockRoom) :
    ∃ parsed, parseText platform.blockRoom text = .ok parsed ∧
      let built := ofNodes platform.patterns cwd baseDir parsed.nodes
      (built = .ok none ↔ ∀ server, ¬Node.FirstServer parsed.nodes server) ∧
      (∀ server, Node.FirstServer parsed.nodes server →
        (∀ source fault, built = .error (.badPattern source fault) ↔
          Node.FirstRefused platform.patterns server.children source fault) ∧
        (∀ count, built = .error (.badPort ⟨count⟩) ↔
          (∀ source fault, ¬Node.FirstRefused platform.patterns server.children source fault) ∧
            ∃ value, server.ListenValue value ∧ WritesOverlongPort value count) ∧
        ∀ config, built = .ok (some config) →
          (∀ value port, server.ListenValue value → WritesUsablePort value port →
            config.listenPort = port) ∧
          ((∀ value port, server.ListenValue value → ¬WritesUsablePort value port) →
            config.listenPort = defaultPort)) ∧
      ∀ e : BuildError, e.isForeseen = true ↔
        ∃ source reason position, e = .badPattern source (.malformed reason position) := by
  obtain ⟨parsed, hparsed⟩ := (parseText_cases platform.blockRoom text).1 hdepth
  refine ⟨parsed, hparsed, ?_, ?_, ?_⟩
  · rw [ofNodes_eq_ok_none, Option.eq_none_iff_forall_ne_some]
    exact forall_congr' fun server => not_congr serverBlock?_eq_some
  · intro server hserver
    have hbuilt : ofNodes platform.patterns cwd baseDir parsed.nodes =
        (ofServer platform.patterns cwd baseDir server).map some := by
      rw [ofNodes, serverBlock?_eq_some.mpr hserver]
    rw [hbuilt]
    simp only [exceptMap_eq_error, exceptMap_eq_ok, ofServer_eq_error, portOfListen_eq_error]
    refine ⟨?_, ?_, ?_⟩
    · intro source fault
      simp
    · intro count
      simp
    · rintro config ⟨_, hconfig, ⟨⟩⟩
      exact listenPort_of_listen (ofServer_listenPort hconfig)
  · intro e
    cases e with
    | badPattern source fault => cases fault <;> simp [BuildError.isForeseen]
    | badPort overflow => simp [BuildError.isForeseen]

end ServerConfig

/-- A location without a pattern, one with a malformed pattern, and a listen value that is no port. -/
def malformedText : Text :=
  "http { server { location ( { } location ~ (a { } listen :x; } }".toList

def malformedServer : Block :=
  ⟨"server".toList, [], [.block "location".toList [['(']] [],
    .block "location".toList [['~'], "(a".toList] [], .directive "listen".toList [":x".toList]]⟩

theorem ServerConfig.ofNodes_outcome_malformed :
    blockDepth (tokenize malformedText) ≤ Platform.plain.blockRoom ∧
      ∃ parsed, parseText Platform.plain.blockRoom malformedText = .ok parsed ∧
        ofNodes Platform.plain.patterns ['/'] ['/'] parsed.nodes =
          .error (.badPattern "(a".toList (.malformed .unterminatedGroup (some 0))) := by
  have hdepth : blockDepth (tokenize malformedText) ≤ Platform.plain.blockRoom := by cbv
  have hread : parseText Platform.plain.blockRoom malformedText = .ok ⟨[.block "http".toList []
      [.block "server".toList [] malformedServer.children]], 0, 0, 0⟩ := by
    cbv
  obtain ⟨parsed, hparsed, _, hserver, _⟩ := ofNodes_outcome Platform.plain ['/'] ['/'] malformedText hdepth
  cases hread.symm.trans hparsed
  have hfirst : Node.FirstServer [.block "http".toList []
      [.block "server".toList [] malformedServer.children]] malformedServer :=
    serverBlock?_eq_some.mp rfl
  refine ⟨hdepth, _, hparsed, ((hserver malformedServer hfirst).1 _ _).mpr ?_⟩
  refine .later ?_ (.here ⟨false, rfl, rfl⟩)
  rintro _ _ ⟨⟩ _ _ ⟨_, ⟨⟩, _⟩

def listenText (value : Text) : Text :=
  "http \x7b server \x7b listen ".toList ++ (value ++ [';', ' ', '}', ' ', '}'])

def listenNodes (value : Text) : List Node :=
  [.block "http".toList [] [.block "server".toList [] [.directive "listen".toList [value]]]]

theorem Scanner.flush_word {done : List Token} {value : Text} (hne : value ≠ []) :
    flush ⟨done, value.reverse, false, .bare⟩ = ⟨.word value :: done, [], false, .bare⟩ := by
  obtain ⟨c, cs, hletters⟩ := List.exists_cons_of_ne_nil (List.reverse_ne_nil_iff.mpr hne)
  have hvalue : (c :: cs).reverse = value := by rw [← hletters, value.reverse_reverse]
  rw [hletters, ← hvalue]
  rfl

theorem Scanner.finish_feedAll_listen (done : List Token) {value : Text} (hne : value ≠ [])
    (h : ∀ c ∈ value, IsBare c) :
    (feedAll ⟨done, [], false, .bare⟩ (value ++ [';', ' ', '}', ' ', '}'])).finish =
      done.reverse ++ [.word value, .semicolon, .rbrace, .rbrace] := by
  rw [feedAll_append, feedAll_bare h, List.append_nil, feedAll_cons, feed_mark rfl rfl, flush_word hne]
  show (Token.rbrace :: .rbrace :: .semicolon :: .word value :: done).reverse = _
  simp

theorem tokenize_listenText {value : Text} (hne : value ≠ []) (h : ∀ c ∈ value, IsBare c) :
    tokenize (listenText value) = [.word "http".toList, .lbrace, .word "server".toList, .lbrace,
      .word "listen".toList, .word value, .semicolon, .rbrace, .rbrace] := by
  have hbefore : Scanner.feedAll {} "http \x7b server \x7b listen ".toList =
      ⟨[.word "listen".toList, .lbrace, .word "server".toList, .lbrace, .word "http".toList],
        [], false, .bare⟩ := by
    decide +kernel
  have hread := Scanner.finish_feedAll_listen [.word "listen".toList, .lbrace,
    .word "server".toList, .lbrace, .word "http".toList] hne h
  rw [← hbefore, ← Scanner.feedAll_append] at hread
  exact hread

theorem parseText_listenText {value : Text} (hne : value ≠ []) (h : ∀ c ∈ value, IsBare c) :
    parseText Platform.plain.blockRoom (listenText value) = .ok ⟨listenNodes value, 0, 0, 0⟩ := by
  rw [parseText, tokenize_listenText hne h]
  cbv

/-- A port with one digit too many does not mean the default: it is a report that is not foreseen. -/
theorem ServerConfig.ofNodes_overlong_listen :
    let digits := List.replicate (digitLimit + 1) '1'
    parseText Platform.plain.blockRoom (listenText digits) = .ok ⟨listenNodes digits, 0, 0, 0⟩ ∧
      ofNodes Platform.plain.patterns ['/'] ['/'] (listenNodes digits) = .error (.badPort ⟨digitLimit + 1⟩) ∧
      (BuildError.badPort ⟨digitLimit + 1⟩).isForeseen = false := by
  intro digits
  have hdigit {c : Char} (hc : c ∈ digits) : c = '1' := (List.mem_replicate.mp hc).2
  have hne : digits ≠ [] := List.cons_ne_nil _ _
  have hoverlong : WritesOverlongPort digits (digitLimit + 1) := by
    refine ⟨_, .alone hne fun c hc => ?_, List.length_replicate, Nat.lt_succ_self _⟩
    rw [hdigit hc]
    decide
  clear_value digits
  refine ⟨parseText_listenText hne fun c hc => by rw [hdigit hc]; decide, ?_, rfl⟩
  refine exceptMap_eq_error.mpr (ofServer_eq_error.mpr (.inr ⟨?_, _, ?_, rfl⟩))
  · exact exists_rulesOf.mp ⟨[], rfl⟩
  · exact portOfListen_eq_error.mpr ⟨_, ⟨[], firstArgs_eq_some.mp rfl⟩, hoverlong⟩

end SitePreview
