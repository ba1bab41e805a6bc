/-
  Loading: from the files of a disk to a service with all its rules.
  Rewrite sections come first, then directive files, then the directive lines of the
  configuration itself. The first that cannot be read ends the loading.
-/
import Reroute.Configuration
import Reroute.Service

namespace Reroute

namespace TableSettings

def toTable (name : String) (s : TableSettings) : LookupTable :=
  .ofEntries name s.fallback s.entries

end TableSettings

namespace RewriteSettings

/-- The settings of the rules. -/
def options (s : RewriteSettings) : RuleOptions :=
  match s.matchTimeout with
  | some budget => { matchTimeout := budget }
  | none => {}

def lookupTables (s : RewriteSettings) : LookupTables :=
  .ofTables ((s.tables.getD []).map fun entry => entry.2.toTable entry.1)

end RewriteSettings

namespace Service

/-- A service without rules. -/
def ofSettings (s : RewriteSettings) (root : DocumentRoot) : Service :=
  { engine := { options := s.options }, tables := s.lookupTables
    documentRoot := some root, serverName := s.serverName }

/-- Adds all rules that settings name. -/
def addRules (service : Service) (s : RewriteSettings) (disk : Disk) :
    Except ServiceError Service := do
  let service ← (s.sectionFiles.getD []).foldlM (fun service path =>
    service.addSectionFile disk path) service
  let service ← (s.directiveFiles.getD []).foldlM (fun service path =>
    service.addDirectivesFile disk path) service
  match s.rules with
  | some text => service.addDirectives text
  | none => .ok service

/-- The service that settings describe; without any it has no rules. -/
def build (settings : Option RewriteSettings) (disk : Disk) (root : String) :
    Except ServiceError Service :=
  match settings with
  | none => .ok { documentRoot := some ⟨disk, root⟩ }
  | some s => (ofSettings s ⟨disk, root⟩).addRules s disk

end Service

namespace Configuration

/-- The file that is read when none is named. -/
def standardPath : String := "config.yaml"

/-- The document root when none is configured. -/
def standardRoot : String := "/var/www/html/"

/-- Reads the configuration file at a path, in the format of its extension. -/
def load (disk : Disk) (path : String) : Option Configuration :=
  match disk.read path with
  | .ok text => read text (.ofPath path)
  | .error _ => none

/-- The configured document root. -/
def root (c : Configuration) : String := (c.site.bind (·.path)).getD standardRoot

end Configuration

end Reroute
