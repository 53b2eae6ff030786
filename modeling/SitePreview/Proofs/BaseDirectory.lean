import SitePreview.Proofs.FirstServer
import SitePreview.Proofs.PathNames
import SitePreview.Routing.ServerConfig
import SitePreview.Workspace.Locate

namespace SitePreview

theorem baseDirFor_isNormal {cwd : Text} (hcwd : Path.isAbsolute cwd = true) (s : Settings)
    (configPath : Text) : Path.IsNormal (baseDirFor cwd s configPath) := by
  unfold baseDirFor
  split
  · exact Path.absolute_isNormal hcwd _
  · split
    · exact Path.absolute_isNormal hcwd _
    · exact Path.parent_isNormal (Path.absolute_isNormal hcwd configPath)

theorem ofNodes_baseDir {support : PatternSupport} {cwd base : Text} {nodes : List Node} {config : ServerConfig}
    (h : ServerConfig.ofNodes support cwd base nodes = .ok (some config)) :
    config.baseDir = Path.absolute cwd base := by
  obtain ⟨server, _, hconfig⟩ := ServerConfig.ofNodes_eq_ok_some.mp h
  obtain ⟨locations, port, _, _, rfl⟩ := ServerConfig.ofServer_eq_ok.mp hconfig
  rfl

theorem ofNodes_keeps_baseDir {support : PatternSupport} {cwd : Text} (hcwd : Path.isAbsolute cwd = true) {s : Settings}
    {configPath : Text} {nodes : List Node} {config : ServerConfig}
    (h : ServerConfig.ofNodes support cwd (baseDirFor cwd s configPath) nodes = .ok (some config)) :
    config.baseDir = baseDirFor cwd s configPath := by
  rw [ofNodes_baseDir h]
  exact Path.absolute_of_isNormal (baseDirFor_isNormal hcwd s configPath) cwd

end SitePreview
