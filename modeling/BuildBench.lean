import BuildBench.Main
import BuildBench.Proofs.Coordinator.Cursor
import BuildBench.Proofs.Coordinator.Group
import BuildBench.Proofs.Coordinator.Independence
import BuildBench.Proofs.Coordinator.Overlap
import BuildBench.Proofs.Coordinator.Summaries
import BuildBench.Proofs.Coordinator.Bystander
import BuildBench.Proofs.Files.Listing
import BuildBench.Proofs.Run.Placement
import BuildBench.Proofs.Run.Preparation
import BuildBench.Proofs.Run.Retention
import BuildBench.Proofs.Coordinator.Placement
import BuildBench.Proofs.Coordinator.Retention
import BuildBench.Proofs.Run.Admission
import BuildBench.Proofs.Tool.Quoting
import BuildBench.Proofs.Entry.Spelling
import BuildBench.Proofs.Cpu.Exactness
import BuildBench.Proofs.Run.Retries
import BuildBench.Proofs.Run.Artifacts
import BuildBench.Proofs.Tool.CsvTable
import BuildBench.Proofs.Run.ResultFile
import BuildBench.Proofs.Run.Results
import BuildBench.Proofs.Cpu.Cpuset
import BuildBench.Proofs.Sandbox.Arguments
import BuildBench.Proofs.Definition.Parameters
import BuildBench.Proofs.Run.Configuration
import BuildBench.Proofs.Coordinator.Blanks
import BuildBench.Proofs.Server.Probe
