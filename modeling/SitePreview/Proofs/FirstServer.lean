import Mathlib.Data.List.Forall2
import SitePreview.PlainPlatform
import SitePreview.Proofs.Fallible
import SitePreview.Routing.ServerConfig

namespace SitePreview

/-- The first of the elements that can be viewed, and whose view is wanted. -/
theorem head?_filter_filterMap {α β : Type} {view : α → Option β} {wanted : β → Bool} {xs : List α}
    {b : β} : ((xs.filterMap view).filter wanted).head? = some b ↔
      wanted b = true ∧ ∃ before x after, xs = before ++ x :: after ∧ view x = some b ∧
        ∀ y ∈ before, ∀ c, view y = some c → wanted c = false := by
  rw [List.filter_filterMap, List.head?_filterMap, List.findSome?_eq_some_iff]
  simp only [Option.filter_eq_some_iff, Option.filter_eq_none_iff, Bool.not_eq_true]
  constructor
  · rintro ⟨before, x, after, hxs, ⟨hx, hb⟩, hbefore⟩
    exact ⟨hb, before, x, after, hxs, hx, hbefore⟩
  · rintro ⟨hb, before, x, after, hxs, hx, hbefore⟩
    exact ⟨before, x, after, hxs, ⟨hx, hb⟩, hbefore⟩

namespace Node

/-- The first block of a name among the nodes themselves. -/
def FirstBlock (name : Text) (nodes : List Node) (b : Block) : Prop :=
  ∃ before after, nodes = before ++ .block name b.args b.children :: after ∧ b.name = name ∧
    ∀ args children, .block name args children ∉ before

/-- The arguments of the first directive of a name among the nodes themselves. -/
def FirstArgs (name : Text) (nodes : List Node) (args : List Text) : Prop :=
  ∃ before after, nodes = before ++ .directive name args :: after ∧
    ∀ other, .directive name other ∉ before

def SameFirstArg (name : Text) (nodes more : List Node) : Prop :=
  ∀ v, (∃ rest, FirstArgs name nodes (v :: rest)) ↔ ∃ rest, FirstArgs name more (v :: rest)

/-- A directive without arguments is as good as none. -/
def SameFirstArgs (name : Text) (nodes more : List Node) : Prop :=
  ∀ v rest, FirstArgs name nodes (v :: rest) ↔ FirstArgs name more (v :: rest)

theorem block?_eq_some {node : Node} {b : Block} :
    node.block? = some b ↔ node = .block b.name b.args b.children := by
  cases node <;> cases b <;> simp [block?]

theorem directive?_eq_some {node : Node} {d : Directive} :
    node.directive? = some d ↔ node = .directive d.name d.args := by
  cases node <;> cases d <;> simp [directive?]

theorem mem_blocksNamed {name : Text} {nodes : List Node} {b : Block} :
    b ∈ blocksNamed name nodes ↔ b.name = name ∧ .block name b.args b.children ∈ nodes := by
  simp only [blocksNamed, List.mem_filter, List.mem_filterMap, block?_eq_some, decide_eq_true_eq]
  constructor
  · rintro ⟨⟨node, hmem, rfl⟩, rfl⟩
    exact ⟨rfl, hmem⟩
  · rintro ⟨rfl, hmem⟩
    exact ⟨⟨_, hmem, rfl⟩, rfl⟩

theorem blocksNamed_eq_nil {name : Text} {nodes : List Node} :
    blocksNamed name nodes = [] ↔ ∀ args children, .block name args children ∉ nodes := by
  rw [List.eq_nil_iff_forall_not_mem]
  constructor
  · intro h args children hmem
    exact h ⟨name, args, children⟩ (mem_blocksNamed.mpr ⟨rfl, hmem⟩)
  · intro h b hb
    exact h _ _ (mem_blocksNamed.mp hb).2

theorem head?_blocksNamed {name : Text} {nodes : List Node} {b : Block} :
    (blocksNamed name nodes).head? = some b ↔ FirstBlock name nodes b := by
  simp only [blocksNamed, head?_filter_filterMap, block?_eq_some, decide_eq_true_eq,
    decide_eq_false_iff_not]
  constructor
  · rintro ⟨rfl, before, _, after, rfl, rfl, hbefore⟩
    refine ⟨before, after, rfl, rfl, ?_⟩
    intro args children hmem
    exact hbefore _ hmem ⟨_, args, children⟩ rfl rfl
  · rintro ⟨before, after, rfl, rfl, hbefore⟩
    refine ⟨rfl, before, _, after, rfl, rfl, ?_⟩
    rintro _ hmem c rfl hname
    exact hbefore c.args c.children (hname ▸ hmem)

theorem head?_directivesNamed {name : Text} {nodes : List Node} {d : Directive} :
    (directivesNamed name nodes).head? = some d ↔ d.name = name ∧ FirstArgs name nodes d.args := by
  simp only [directivesNamed, head?_filter_filterMap, directive?_eq_some, decide_eq_true_eq,
    decide_eq_false_iff_not]
  refine and_congr_right ?_
  rintro rfl
  constructor
  · rintro ⟨before, _, after, rfl, rfl, hbefore⟩
    exact ⟨before, after, rfl, fun args hmem => hbefore _ hmem ⟨_, args⟩ rfl rfl⟩
  · rintro ⟨before, after, rfl, hbefore⟩
    refine ⟨before, _, after, rfl, rfl, ?_⟩
    rintro _ hmem c rfl hname
    exact hbefore c.args (hname ▸ hmem)

end Node

theorem firstArgs_eq_some {name : Text} {nodes : List Node} {args : List Text} :
    firstArgs name nodes = some args ↔ Node.FirstArgs name nodes args := by
  simp only [firstArgs, Option.map_eq_some_iff, Node.head?_directivesNamed]
  constructor
  · rintro ⟨d, ⟨_, hfirst⟩, rfl⟩
    exact hfirst
  · exact fun hfirst => ⟨⟨name, args⟩, ⟨rfl, hfirst⟩, rfl⟩

theorem Node.firstArg?_eq (name : Text) (nodes : List Node) :
    firstArg? name nodes = (firstArgs name nodes).bind List.head? := by
  rw [firstArg?, firstArgs, Option.bind_map]
  rfl

theorem Node.firstArg?_eq_some {name : Text} {nodes : List Node} {v : Text} :
    firstArg? name nodes = some v ↔ ∃ rest, FirstArgs name nodes (v :: rest) := by
  simp only [firstArg?_eq, Option.bind_eq_some_iff, firstArgs_eq_some, List.head?_eq_some_iff]
  constructor
  · rintro ⟨args, hfirst, rest, rfl⟩
    exact ⟨rest, hfirst⟩
  · rintro ⟨rest, hfirst⟩
    exact ⟨v :: rest, hfirst, rest, rfl⟩

theorem Node.sameFirstArg_iff {name : Text} {nodes more : List Node} :
    SameFirstArg name nodes more ↔ firstArg? name nodes = firstArg? name more := by
  simp only [SameFirstArg, ← firstArg?_eq_some]
  exact ⟨fun h => Option.ext h, fun h v => by rw [h]⟩

theorem getD_firstArgs_eq_cons {name : Text} {nodes : List Node} {v : Text} {rest : List Text} :
    (firstArgs name nodes).getD [] = v :: rest ↔ Node.FirstArgs name nodes (v :: rest) := by
  rw [← firstArgs_eq_some]
  cases firstArgs name nodes <;> simp

theorem Node.sameFirstArgs_iff {name : Text} {nodes more : List Node} :
    SameFirstArgs name nodes more ↔
      (firstArgs name nodes).getD [] = (firstArgs name more).getD [] := by
  simp only [SameFirstArgs, ← getD_firstArgs_eq_cons]
  constructor
  · intro h
    cases hnodes : (firstArgs name nodes).getD [] with
    | cons v rest => exact ((h v rest).mp hnodes).symm
    | nil =>
      cases hmore : (firstArgs name more).getD [] with
      | nil => rfl
      | cons v rest => exact absurd ((h v rest).mpr hmore) (by simp [hnodes])
  · intro h v rest
    rw [h]

/-- What counts of a location. -/
structure Block.SameLocation (a b : Block) : Prop where
  args : a.args = b.args
  proxyPass : Node.SameFirstArg "proxy_pass".toList a.children b.children
  root : Node.SameFirstArg "root".toList a.children b.children
  tryFiles : Node.SameFirstArgs "try_files".toList a.children b.children

/-- The locations among two lists of nodes agree pairwise and in order, whatever else stands there. -/
inductive Node.SameLocations : List Node → List Node → Prop
  | nil : SameLocations [] []
  | left {node nodes more} : (∀ args children, node ≠ .block "location".toList args children) →
      SameLocations nodes more → SameLocations (node :: nodes) more
  | right {node nodes more} : (∀ args children, node ≠ .block "location".toList args children) →
      SameLocations nodes more → SameLocations nodes (node :: more)
  | both {args args' children children' nodes more} :
      Block.SameLocation ⟨"location".toList, args, children⟩ ⟨"location".toList, args', children'⟩ →
      SameLocations nodes more →
      SameLocations (.block "location".toList args children :: nodes)
        (.block "location".toList args' children' :: more)

/-- What counts of a server. -/
structure Block.SameServer (a b : Block) : Prop where
  listen : Node.SameFirstArg "listen".toList a.children b.children
  root : Node.SameFirstArg "root".toList a.children b.children
  index : Node.SameFirstArgs "index".toList a.children b.children
  locations : Node.SameLocations a.children b.children

theorem blocksNamed_cons_of_ne {name : Text} {node : Node} {nodes : List Node}
    (h : ∀ args children, node ≠ .block name args children) :
    Node.blocksNamed name (node :: nodes) = Node.blocksNamed name nodes := by
  cases node with
  | directive other args => rfl
  | block other args children =>
    have hother : other ≠ name := by
      rintro rfl
      exact h args children rfl
    simp [Node.blocksNamed, Node.block?, hother]

theorem blocksNamed_cons_block (name : Text) (args : List Text) (children nodes : List Node) :
    Node.blocksNamed name (.block name args children :: nodes) =
      ⟨name, args, children⟩ :: Node.blocksNamed name nodes := by
  simp [Node.blocksNamed, Node.block?]

variable {support : PatternSupport}

theorem Block.SameLocation.ofBlock_eq {a b : Block} (h : a.SameLocation b) :
    LocationRule.ofBlock support a = LocationRule.ofBlock support b := by
  have htry : tryFilesList (firstArgs "try_files".toList a.children) =
      tryFilesList (firstArgs "try_files".toList b.children) := by
    rw [tryFilesList, tryFilesList, trimmedArgs, trimmedArgs, Node.sameFirstArgs_iff.mp h.tryFiles]
  rw [LocationRule.ofBlock, LocationRule.ofBlock, h.args, Node.sameFirstArg_iff.mp h.proxyPass,
    Node.sameFirstArg_iff.mp h.root, htry]

theorem Node.SameLocations.mapM_ofBlock_eq {nodes more : List Node} (h : SameLocations nodes more) :
    (blocksNamed "location".toList nodes).mapM (LocationRule.ofBlock support) =
      (blocksNamed "location".toList more).mapM (LocationRule.ofBlock support) := by
  induction h with
  | nil => rfl
  | left hnode _ ih => rw [blocksNamed_cons_of_ne hnode, ih]
  | right hnode _ ih => rw [blocksNamed_cons_of_ne hnode, ih]
  | both hsame _ ih =>
    rw [blocksNamed_cons_block, blocksNamed_cons_block, List.mapM_cons, List.mapM_cons, hsame.ofBlock_eq,
      ih]

theorem portOfListen_bind_head? (args : Option (List Text)) :
    portOfListen args = portOfListen ((args.bind List.head?).map fun v => [v]) := by
  cases args with
  | none => rfl
  | some vs => cases vs <;> rfl

namespace ServerConfig

theorem ofServer_eq {cwd baseDir : Text} {a b : Block} (h : a.SameServer b) :
    ofServer support cwd baseDir a = ofServer support cwd baseDir b := by
  have hport : portOfListen (firstArgs "listen".toList a.children) =
      portOfListen (firstArgs "listen".toList b.children) := by
    rw [portOfListen_bind_head?, ← Node.firstArg?_eq, Node.sameFirstArg_iff.mp h.listen,
      Node.firstArg?_eq, ← portOfListen_bind_head?]
  have hindex : indexList (firstArgs "index".toList a.children) =
      indexList (firstArgs "index".toList b.children) := by
    rw [indexList, indexList, trimmedArgs, trimmedArgs, Node.sameFirstArgs_iff.mp h.index]
  have hroot (base : Text) : rootOf cwd base a = rootOf cwd base b := by
    rw [rootOf, rootOf, Node.sameFirstArg_iff.mp h.root]
  have hrules : rulesOf support a = rulesOf support b := h.locations.mapM_ofBlock_eq
  rw [ofServer, ofServer, hport, hindex, hrules, hroot]

theorem serverBlock?_eq_some {nodes : List Node} {server : Block} :
    serverBlock? nodes = some server ↔ ∃ http, Node.FirstBlock "http".toList nodes http ∧
      Node.FirstBlock "server".toList http.children server := by
  simp only [serverBlock?, httpBlock?, Option.bind_eq_some_iff, Node.head?_blocksNamed]

theorem serverBlock?_eq_none {nodes : List Node} :
    serverBlock? nodes = none ↔
      (∀ args children, .block "http".toList args children ∉ nodes) ∨
        ∃ http, Node.FirstBlock "http".toList nodes http ∧
          ∀ args children, .block "server".toList args children ∉ http.children := by
  rw [serverBlock?, httpBlock?, ← Node.blocksNamed_eq_nil]
  cases hhttp : Node.blocksNamed "http".toList nodes with
  | nil => simp
  | cons http rest =>
    have hfirst : Node.FirstBlock "http".toList nodes http :=
      Node.head?_blocksNamed.mp (by rw [hhttp, List.head?_cons])
    -- There is one first block, so "some first block" is this one.
    simp only [List.head?_cons, Option.bind_some, List.head?_eq_none_iff, Node.blocksNamed_eq_nil,
      List.cons_ne_nil, false_or]
    constructor
    · exact fun h => ⟨http, hfirst, h⟩
    · rintro ⟨other, hother, h⟩
      have heq := Node.head?_blocksNamed.mpr hother
      rw [hhttp, List.head?_cons] at heq
      cases heq
      exact h

theorem ofServer_eq_ok {cwd baseDir : Text} {server : Block} {config : ServerConfig} :
    ofServer support cwd baseDir server = .ok config ↔
      ∃ locations port, rulesOf support server = .ok locations ∧
        portOfListen (firstArgs "listen".toList server.children) = .ok port ∧
        config = {
          listenPort := port
          documentRoot := rootOf cwd (Path.absolute cwd baseDir) server
          indexFiles := indexList (firstArgs "index".toList server.children)
          locations
          baseDir := Path.absolute cwd baseDir } := by
  unfold ofServer
  simp only [exceptBind_eq_ok, exceptMapError_eq_ok, exceptPure_eq_ok, eq_comm (a := config)]
  constructor
  · rintro ⟨locations, hrules, port, hport, heq⟩
    exact ⟨locations, port, hrules, hport, heq⟩
  · rintro ⟨locations, port, hrules, hport, heq⟩
    exact ⟨locations, hrules, port, hport, heq⟩

theorem ofNodes_eq_ok_none {cwd baseDir : Text} {nodes : List Node} :
    ofNodes support cwd baseDir nodes = .ok none ↔ serverBlock? nodes = none := by
  rw [ofNodes]
  cases serverBlock? nodes with
  | none => simp
  | some server =>
    simp only [exceptMap_eq_ok, reduceCtorEq, and_false, exists_false]

theorem ofNodes_eq_ok_some {cwd baseDir : Text} {nodes : List Node} {config : ServerConfig} :
    ofNodes support cwd baseDir nodes = .ok (some config) ↔
      ∃ server, serverBlock? nodes = some server ∧ ofServer support cwd baseDir server = .ok config := by
  rw [ofNodes]
  cases serverBlock? nodes with
  | none => simp
  | some server => simp [exceptMap_eq_ok]

/-- Two trees whose first servers agree in what counts give one result, and there is none just if
there is no first server. -/
theorem ofNodes_depends_on_first_server (support : PatternSupport) (cwd baseDir : Text) :
    (∀ nodes more http http' server server',
      Node.FirstBlock "http".toList nodes http → Node.FirstBlock "server".toList http.children server →
      Node.FirstBlock "http".toList more http' → Node.FirstBlock "server".toList http'.children server' →
      server.SameServer server' → ofNodes support cwd baseDir nodes = ofNodes support cwd baseDir more) ∧
    ∀ nodes, ofNodes support cwd baseDir nodes = .ok none ↔
      (∀ args children, .block "http".toList args children ∉ nodes) ∨
        ∃ http, Node.FirstBlock "http".toList nodes http ∧
          ∀ args children, .block "server".toList args children ∉ http.children := by
  constructor
  · intro nodes more http http' server server' hhttp hserver hhttp' hserver' hsame
    have hnodes := serverBlock?_eq_some.mpr ⟨http, hhttp, hserver⟩
    have hmore := serverBlock?_eq_some.mpr ⟨http', hhttp', hserver'⟩
    rw [ofNodes, ofNodes, hnodes, hmore]
    simp only [ofServer_eq hsame]
  · intro nodes
    rw [ofNodes_eq_ok_none, serverBlock?_eq_none]

end ServerConfig

/-- A server, and one that agrees with it in what counts and holds much else. -/
def plainServer : Block :=
  ⟨"server".toList, [], [.directive "listen".toList [['8']],
    .block "location".toList [['/']] [.directive "root".toList [['a']]]]⟩

def crowdedServer : Block :=
  ⟨"server".toList, [['x']], [.block "listen".toList [['7']] [.directive "listen".toList [['6']]],
    .directive "listen".toList [['8'], ['s']], .directive "listen".toList [['9']],
    .block "location".toList [['/']] [.block "if".toList [] [.directive "root".toList [['c']]],
      .directive "root".toList [['a'], ['b']], .directive "try_files".toList []],
    .directive "index".toList []]⟩

theorem plainServer_sameServer : plainServer.SameServer crowdedServer where
  listen := Node.sameFirstArg_iff.mpr rfl
  root := Node.sameFirstArg_iff.mpr rfl
  index := Node.sameFirstArgs_iff.mpr rfl
  locations := by
    refine .left (by simp) (.right (by simp) (.right (by simp) (.right (by simp) (.both ?_ ?_))))
    · exact ⟨rfl, Node.sameFirstArg_iff.mpr rfl, Node.sameFirstArg_iff.mpr rfl,
        Node.sameFirstArgs_iff.mpr rfl⟩
    · exact .right (by simp) .nil

theorem ServerConfig.ofNodes_depends_on_first_server_crowded :
    let plain : List Node :=
      [.block "http".toList [] [.block "server".toList plainServer.args plainServer.children]]
    let crowded : List Node :=
      [.directive "http".toList [], .block "http".toList [] [.directive "server".toList [],
        .block "server".toList crowdedServer.args crowdedServer.children,
        .block "server".toList [] []], .block "http".toList [] []]
    plainServer.SameServer crowdedServer ∧
      ofNodes Platform.plain.patterns ['/'] ['/'] plain =
        ofNodes Platform.plain.patterns ['/'] ['/'] crowded ∧
      ofNodes Platform.plain.patterns ['/'] ['/'] [.block "server".toList [] []] = .ok none := by
  intro plain crowded
  obtain ⟨hsame, hnone⟩ := ofNodes_depends_on_first_server Platform.plain.patterns ['/'] ['/']
  refine ⟨plainServer_sameServer, ?_, (hnone _).mpr (.inl (by simp))⟩
  exact hsame plain crowded ⟨_, _, _⟩ ⟨_, _, _⟩ plainServer crowdedServer
    (Node.head?_blocksNamed.mp rfl) (Node.head?_blocksNamed.mp rfl) (Node.head?_blocksNamed.mp rfl)
    (Node.head?_blocksNamed.mp rfl) plainServer_sameServer

end SitePreview
