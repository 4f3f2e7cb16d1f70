import Rampart.Text.Basic

/-!
# Known exploitable types

Fragments of identities of types that are known to turn decoding into an attack.  A type whose
identity holds one of them is never trusted.
-/

namespace Rampart.Exploitable

/-- The fragments, in the order in which they are tried. -/
def fragments : List Text := [
  "System.Security.Principal.WindowsIdentity".toList,
  "System.Security.Principal.WindowsPrincipal".toList,
  "System.Security.Claims.ClaimsIdentity".toList,
  "System.Security.Claims.ClaimsPrincipal".toList,
  "Microsoft.IdentityModel.Claims.WindowsClaimsIdentity".toList,
  "System.Web.Security.RolePrincipal".toList,
  "System.IdentityModel.Tokens.SessionSecurityToken".toList,
  "System.Windows.Data.ObjectDataProvider".toList,
  "System.Windows.ResourceDictionary".toList,
  "System.Windows.Markup.XamlReader".toList,
  "System.Windows.Forms.AxHost+State".toList,
  "System.Data.Services.Internal.ExpandedWrapper".toList,
  "System.Data.DataSet".toList,
  "System.Configuration.Install.AssemblyInstaller".toList,
  "System.Management.Automation.PSObject".toList,
  "Microsoft.VisualStudio.Text.Formatting.TextFormattingRunProperties".toList,
  "System.Workflow.ComponentModel.Serialization.ActivitySurrogateSelector".toList,
  "System.Resources.ResourceSet".toList,
  "System.Runtime.Remoting.ObjRef".toList,
  "System.DelegateSerializationHolder".toList,
  "System.CodeDom.Compiler.TempFileCollection".toList,
  "System.Diagnostics.Process".toList,
  "System.IO.FileSystemInfo".toList]

/-- The first fragment that an identity holds. -/
def find? (identity : Text) : Option Text := fragments.find? identity.has

/-- Whether an identity holds some fragment. -/
def isExploitable (identity : Text) : Bool := (find? identity).isSome

end Rampart.Exploitable
