import SitePreview.CommandLine.Program
import SitePreview.Proofs.PrintedTable
import SitePreview.Proofs.StartOutcome

namespace SitePreview

namespace Server

variable {s : Server} {plan : ListenPlan}

end Server

namespace Program

end Program

end SitePreview
