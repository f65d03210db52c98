import ByteMachine.Text.Radix

/-! How the report of an error looks: its first message and, below it, the causes. -/

namespace ByteMachine.CommandLine.Report

/-- Causes indented by four spaces, and numbered if there are several. -/
def listing : List String → List String
  | [] => []
  | [cause] => ["", "Caused by:", "    " ++ cause]
  | causes =>
    "" :: "Caused by:" ::
      causes.zipIdx.map fun (cause, i) => "    " ++ Radix.decimal i ++ ": " ++ cause

def lines : List String → List String
  | [] => []
  | message :: causes => ("Error: " ++ message) :: listing causes

end ByteMachine.CommandLine.Report
