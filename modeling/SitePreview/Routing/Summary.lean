import SitePreview.Routing.ServerConfig

namespace SitePreview

structure RuleSummary where
  rule : Text
  kind : Text
  proxyPass : Option Text
  root : Option Text
  tryFiles : Option (List Text)
  deriving DecidableEq, Repr

structure ConfigSummary where
  listenPort : Nat
  documentRoot : Text
  indexFiles : List Text
  locations : List RuleSummary
  deriving DecidableEq, Repr

def LocationRule.summary (r : LocationRule) : RuleSummary where
  rule := r.describe
  kind := r.kindName
  proxyPass := r.proxyTarget
  root := r.rootOverride
  tryFiles := r.tryFiles

def ServerConfig.summary (c : ServerConfig) : ConfigSummary where
  listenPort := c.listenPort
  documentRoot := c.documentRoot
  indexFiles := c.indexFiles
  locations := c.locations.map LocationRule.summary

end SitePreview
