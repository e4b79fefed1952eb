import McRtc.Rbdyn.QuadraticGenerator
import McRtc.Rbdyn.QuadraticProfile
import McRtc.Rbdyn.Plane
import McRtc.Rbdyn.PolygonPlanes
import McRtc.Rbdyn.SetPlanes
import McRtc.Tasks.TrajectoryTask
import McRtc.Tasks.TrajectoryGains
import McRtc.Sva.PTransform
import McRtc.Observers.KinematicInertialPose
import McRtc.Control.EgressController
import McRtc.Control.EgressPhases
import McRtc.Control.EgressCheckedPhases
import McRtc.Control.EgressProgress
