import EventLoop.StorageTheorems
import EventLoop.Receivers
import EventLoop.QueueRefinement
import EventLoop.TimerOrder
import EventLoop.CatchUp
import EventLoop.Periodic
import EventLoop.Timeout
import EventLoop.TimeoutTheorems
import EventLoop.DispatchTheorems
import EventLoop.InterruptTheorems
import EventLoop.CancelTheorems
import EventLoop.UserEvents
import EventLoop.NextTimer
import EventLoop.RunUntilIdle
import EventLoop.TimeoutWatch
import EventLoop.TimeoutEvery
import EventLoop.TimeoutOnce
import EventLoop.Lib.DeadlineMap
import EventLoop.CallbackTimer
import EventLoop.CallbackTimerTheorems
import EventLoop.CallbackTimerInvariant
import EventLoop.CallbackTimerRefinement
import EventLoop.CallbackTimerRuns
import EventLoop.CallbackTimerZero
import EventLoop.TickTimer
import EventLoop.TickTimerTheorems
import EventLoop.CallbackSleep
import EventLoop.Compensation
import EventLoop.CompensationTheorems
import EventLoop.SchedulerInit
import EventLoop.BoundedWaiting
import EventLoop.ConcurrentTheorems
import EventLoop.Memory
import EventLoop.TimerRefinement
import EventLoop.LaunchOrder
import EventLoop.TimerAccuracy
import EventLoop.SleepTime
import EventLoop.InitEvent
import EventLoop.LoopRefinement
