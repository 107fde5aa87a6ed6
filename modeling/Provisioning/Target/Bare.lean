import Provisioning.Target

/-!
A target without a way to run anything: every question and every line is refused.
-/
namespace Provisioning.Target

def bare {σ : Type} (workdir : Option String) : Target σ where
  name := "environment"
  workdir := workdir
  isRoot := false
  available := Activity.fail (.refused .unsupported)
  perform := fun _ => Activity.fail (.refused .unsupported)

end Provisioning.Target
