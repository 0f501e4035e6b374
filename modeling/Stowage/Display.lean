import Stowage.Stack.Basic
import Stowage.Text.Quoted

/-!
How managers and stacks show themselves in diagnostics.
-/
namespace Stowage

def Manager.display (m : Manager) : String :=
  Text.shownRecord "PluginManager" [
    ("loaded", Text.bracketed (m.loaded.map Text.quoted)),
    ("factories", Text.ofInt m.factories.length),
    ("options", Text.braced (m.options.entries.map fun (key, value) =>
      Text.quoted key ++ ": " ++ Text.quoted value)),
    ("placement", Text.quoted m.placement.policy.name)]

def Stack.display (s : Stack) : String :=
  Text.shownRecord "StackInstance" [
    ("user", Text.shownOption (s.security.map fun ctx => Text.quoted ctx.user.name)),
    ("catalog", Text.shownOption (s.catalog.map fun c =>
      Text.quoted (c.implId .catalog CatalogNode.implId))),
    ("pool_manager", Text.shownOption (s.pools.map fun c =>
      Text.quoted (c.implId .pools (TableNode.implId .pools)))),
    ("pool_drivers", Text.bracketed (s.drivers.map fun (type, _) => Text.quoted type)),
    ("excluded", Text.braced (s.excluded.toList.map Text.ofInt))]

end Stowage
