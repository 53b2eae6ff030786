import SitePreview.Fields.Checked
import SitePreview.Files.Path
import SitePreview.Routing.ServerConfig

namespace SitePreview

inductive RuleKind where
  | exact
  | prefixed
  | pattern
  deriving DecidableEq, Repr

namespace RuleKind

def named : List (Text × RuleKind) :=
  [("exact".toList, exact), ("prefix".toList, prefixed), ("regex".toList, pattern)]

def name : RuleKind → Text
  | exact => "exact".toList
  | prefixed => "prefix".toList
  | pattern => "regex".toList

end RuleKind

namespace LocationRule

structure Draft where
  kind : RuleKind
  matcher : Text
  caseInsensitive : Bool
  final : Bool
  proxyTarget : Option Text
  rootOverride : Option Text
  tryFiles : Option (List Text)

def Draft.ofRecord (r : Record) : Checked Draft :=
  mk <$> r.read "kind" none (Value.asOneOf RuleKind.named)
    <*> r.read "matcher" (some ['/']) Value.asText
    <*> r.read "case_insensitive" (some false) Value.asBoolean
    <*> r.read "stop_on_match" (some false) Value.asBoolean
    <*> r.read "proxy_target" (some none) (Value.orNone Value.asText)
    <*> r.read "root_override" (some none) (Value.orNone Value.asText)
    <*> r.read "try_files" (some none) (Value.orNone (Value.asListOf Value.asText))

def Draft.selector (d : Draft) (compiled : Option Pattern) : Checked Selector :=
  if d.final && d.kind != .prefixed then
    .fail (.rejected "stop_on_match is only valid for prefix locations".toList)
  else match d.kind, compiled with
    | .pattern, some p => .valid (.pattern p)
    | .pattern, none => .fail (.rejected
        ("Regex location '".toList ++ d.matcher ++ "' has no compiled pattern".toList))
    | .exact, none => .valid .exact
    | .prefixed, none => .valid (.prefixed d.final)
    | kind, some _ =>
      .fail (.rejected ("Only regex locations carry a pattern, got ".toList ++ kind.name))

def Draft.rule (d : Draft) (compiled : Option Pattern) : Checked LocationRule :=
  (fun selector => {
    selector
    matcher := d.matcher
    caseInsensitive := d.caseInsensitive
    proxyTarget := d.proxyTarget
    rootOverride := d.rootOverride
    tryFiles := if d.tryFiles = some [] then none else d.tryFiles }) <$> d.selector compiled

def ofRecord (r : Record) (compiled : Option Pattern) : Checked LocationRule :=
  (Draft.ofRecord r).further fun d => d.rule compiled

end LocationRule

namespace ServerConfig

def absoluteText (v : Value) : Checked Text :=
  v.asText.further fun p =>
    if Path.isAbsolute p then .valid p
    else .fail (.rejected ("Path must be absolute: ".toList ++ p))

def portNumber (v : Value) : Checked Nat :=
  Int.toNat <$> ((v.asInteger.further (Value.atLeast 1)).further (Value.atMost lastPort))

def indexNames (v : Value) : Checked (List Text) :=
  (v.asListOf Value.asText).further fun names =>
    if names = [] then .fail .emptyList else .valid names

/-- The rules are given apart, as they are checked on their own. -/
def ofRecord (r : Record) (locations : List LocationRule) : Checked ServerConfig :=
  (fun port root names base => mk port root names locations base)
    <$> r.read "listen_port" (some defaultPort) portNumber
    <*> r.read "document_root" none absoluteText
    <*> r.read "index_files" (some defaultIndexFiles) indexNames
    <*> r.read "base_dir" none absoluteText

end ServerConfig

end SitePreview
