import SitePreview.Fields.Checked
import SitePreview.Routing.ListenPort

namespace SitePreview

def anyAddress : Text := "0.0.0.0".toList

/-- A port of zero leaves the choice to the configuration. -/
structure Settings where
  configPath : Text := []
  baseDir : Text := []
  workspaceRoot : Option Text := none
  host : Text := anyAddress
  overridePort : Nat := 0
  deriving DecidableEq, Repr

namespace Settings

def trimmedText (v : Value) : Checked Text := Text.trim <$> v.asText

def hostText (v : Value) : Checked Text :=
  (fun s => if s = [] then anyAddress else s) <$> trimmedText v

def portNumber (v : Value) : Checked Nat :=
  Int.toNat <$> ((v.asInteger.further (Value.atLeast 0)).further (Value.atMost lastPort))

def ofRecord (r : Record) : Checked Settings :=
  mk <$> r.read "config_path" (some []) trimmedText
    <*> r.read "base_dir" (some []) trimmedText
    <*> r.read "workspace_root" (some none) (Value.orNone Value.asText)
    <*> r.read "host" (some anyAddress) hostText
    <*> r.read "override_port" (some 0) portNumber

end Settings

end SitePreview
