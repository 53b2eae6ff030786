import SitePreview.Fields.RuleChoice

namespace SitePreview

def Selector.kind : Selector → RuleKind
  | .exact => .exact
  | .prefixed _ => .prefixed
  | .pattern _ => .pattern

def Selector.compiled? : Selector → Option Pattern
  | .pattern p => some p
  | _ => none

namespace LocationRule

def fields (r : LocationRule) : RuleFields where
  kind := r.selector.kind
  matcher := r.matcher
  caseInsensitive := r.caseInsensitive
  final := r.isFinal
  proxyTarget := r.proxyTarget
  rootOverride := r.rootOverride
  tryFiles := r.tryFiles
  compiled := r.selector.compiled?

def Draft.record (d : Draft) : Record := [
  ("kind".toList, .text d.kind.name),
  ("matcher".toList, .text d.matcher),
  ("case_insensitive".toList, .bool d.caseInsensitive),
  ("stop_on_match".toList, .bool d.final),
  ("proxy_target".toList, .ofOptional d.proxyTarget),
  ("root_override".toList, .ofOptional d.rootOverride),
  ("try_files".toList, (d.tryFiles.map .ofTexts).getD .null)]

/-- What a location's block sets whatever its arguments are, for a prefix. -/
def Draft.ofBlock (b : Block) (matcher : Text) : Draft where
  kind := .prefixed
  matcher := matcher
  caseInsensitive := false
  final := false
  proxyTarget := Node.firstArg? "proxy_pass".toList b.children
  rootOverride := Node.firstArg? "root".toList b.children
  tryFiles := tryFilesList (firstArgs "try_files".toList b.children)

end LocationRule

namespace RuleFields

/-- The fields of a location's block, with the pattern that its arguments ask for. -/
def ofBlock (support : PatternSupport) (b : Block) : Except BuildError RuleFields :=
  let modifier := b.args.head?.getD []
  let next := b.args[1]?
  if modifier = ['='] then
    .ok { LocationRule.Draft.ofBlock b (orSlash next) with kind := .exact, compiled := none }
  else if modifier = ['~'] ∨ modifier = ['~', '*'] then
    let source := next.getD []
    let ignoreCase := modifier = ['~', '*']
    match Pattern.compile support source ignoreCase with
    | .ok p => .ok { LocationRule.Draft.ofBlock b source with
        kind := .pattern, caseInsensitive := ignoreCase, compiled := some p }
    | .error fault => .error (.badPattern source fault)
  else if modifier = ['^', '~'] then
    .ok { LocationRule.Draft.ofBlock b (orSlash next) with final := true, compiled := none }
  else .ok { LocationRule.Draft.ofBlock b (orSlash (some modifier)) with compiled := none }

end RuleFields

def ServerConfig.record (c : ServerConfig) : Record := [
  ("listen_port".toList, .number c.listenPort 0),
  ("document_root".toList, .text c.documentRoot),
  ("index_files".toList, .ofTexts c.indexFiles),
  ("base_dir".toList, .text c.baseDir)]

end SitePreview
