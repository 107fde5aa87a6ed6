import Provisioning.Keyed
import Provisioning.Text.Blank

/-!
Defaults that the process environment may replace. A variable that is set counts even when it is
empty.
-/
namespace Provisioning

abbrev Environ := List (String × String)

def Environ.values (env : Environ) : List (String × Option String) :=
  env.map fun e => (e.1, some e.2)

structure Settings where
  installerUrl : String
  guestPath : String
  baseBox : String
  machineDir : String
  packages : List String
  deriving DecidableEq, Repr

namespace Settings

def ofEnviron (env : Environ) : Settings where
  installerUrl := (env.lookup "VMBUILD_INSTALLER_URL").getD "https://sh.rustup.rs"
  guestPath := (env.lookup "VMBUILD_GUEST_PATH").getD "/project"
  baseBox := (env.lookup "VMBUILD_BASE_BOX").getD "ubuntu/jammy64"
  machineDir := (env.lookup "VMBUILD_VAGRANT_DIR").getD "."
  packages :=
    let listed := (env.lookup "VMBUILD_SYSTEM_PACKAGES").getD
      "build-essential curl ca-certificates"
    (Text.words listed.toList).map String.ofList

end Settings
end Provisioning
