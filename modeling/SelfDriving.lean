import SelfDriving.Front.WatchdogProofs
import SelfDriving.Front.FreshnessProofs
import SelfDriving.Front.ReplayProofs
import SelfDriving.Front.SlewProofs
import SelfDriving.Front.LinkProofs
import SelfDriving.Front.RangeProofs
import SelfDriving.Front.CenterProofs
import SelfDriving.Front.FrameReads
import SelfDriving.Hpvc.AebThreatProofs
import SelfDriving.Hpvc.AebReceiveProofs
import SelfDriving.Hpvc.AebExceptionProofs
import SelfDriving.Hpvc.FrontendProofs
import SelfDriving.Hpvc.DecoderAgreementProofs
import SelfDriving.Hpvc.CopyProofs
import SelfDriving.Hpvc.TofValidityProofs
import SelfDriving.Hpvc.LinkMonitorProofs
import SelfDriving.Middle.RoundTripProofs
import SelfDriving.Hpvc.EmergencyStopProofs
import SelfDriving.Hpvc.ResyncProofs
import SelfDriving.Hpvc.RestartProofs
import SelfDriving.Hpvc.EncoderCounterProofs
import SelfDriving.Rear.DriveCommandSharing
import SelfDriving.Rear.ReceiveProofs
import SelfDriving.Hpvc.RemoteSafetyProofs
import SelfDriving.Rear.ControlLoopInvariant
import SelfDriving.Rear.ModeEntryProofs
import SelfDriving.Rear.IntegratorProofs
import SelfDriving.Hpvc.PublisherProofs
import SelfDriving.Hpvc.PublisherStartupProofs
import SelfDriving.Hpvc.BrakeCommandProofs
import SelfDriving.Hpvc.PersonPipelineProofs
import SelfDriving.Hpvc.DiagnosticProofs
import SelfDriving.Hpvc.AccEstimateProofs
import SelfDriving.Hpvc.RelativeSpeedProofs
import SelfDriving.Front.SensorPacket
import SelfDriving.Hpvc.FrontWireProofs
import SelfDriving.Front.ConvergenceProofs
import SelfDriving.Hpvc.BurstErrorProofs
import SelfDriving.Front.SensorRangeProofs
import SelfDriving.Rear.UltrasonicProofs
import SelfDriving.Rear.BoardStatusProofs
import SelfDriving.Hpvc.SensorDecisionProofs
import SelfDriving.Hpvc.LaneChangeTestProofs
import SelfDriving.Front.Checksum
import SelfDriving.Front.SpadProofs
import SelfDriving.Foundations.Crc32Polynomial
import SelfDriving.Hpvc.CrcAgreementProofs
import SelfDriving.Front.TofSetupProofs
import SelfDriving.Front.TofPinProofs
import SelfDriving.Front.TofDiagProofs
import SelfDriving.Bench.SensorTestProofs
import SelfDriving.Bench.KeyboardProofs
